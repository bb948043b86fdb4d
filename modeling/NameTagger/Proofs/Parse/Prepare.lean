import NameTagger.Parse.Decode

/-!
# Before a name is labeled

A model is looked for first, then the tokens of the name, then the groups of features.

* `usable_some`, `usable_of_filter_eq_none`: a model that is loaded can be used, any other cannot;
* `prepare_modelNotLoaded`, `prepare_emptyInput`, `prepare_eq_ok`: what comes of a name.
-/

namespace NameTagger.Parser

variable {σ W : Type} {model : Model W} {model? : Option (Model W)}

theorem usable_some (hmodel : model.isLoaded = true) : usable (some model) = .ok model := by
  rw [usable, Option.filter_some_pos hmodel]

theorem usable_of_filter_eq_none (hmodel : model?.filter (·.isLoaded) = none) :
    usable model? = .error ⟨.modelNotLoaded, "CRF model is not loaded"⟩ := by
  rw [usable, hmodel]

variable [OfScientific W] (parser : Parser σ W) {text? : Option String}

theorem prepare_modelNotLoaded (hmodel : model?.filter (·.isLoaded) = none) :
    parser.prepare text? model? = .error ⟨.modelNotLoaded, "CRF model is not loaded"⟩ := by
  rw [prepare, usable_of_filter_eq_none hmodel]
  rfl

theorem prepare_emptyInput (hmodel : model.isLoaded = true)
    (htokens : Token.ofText (text?.getD "") = []) :
    parser.prepare text? (some model) = .error ⟨.emptyInput, "No tokens to label"⟩ := by
  rw [prepare, usable_some hmodel, htokens]
  rfl

theorem prepare_eq_ok {groups : List String} (hmodel : model.isLoaded = true)
    (htokens : Token.ofText (text?.getD "") ≠ []) (hgroups : parser.groups.names = .ok groups) :
    parser.prepare text? (some model) =
      .ok ⟨model, Token.ofText (text?.getD ""),
        Instance.recognize model.attrs
          ((Token.ofText (text?.getD "")).map Feature.Cell.ofToken) groups⟩ := by
  obtain ⟨token, tokens, hcons⟩ := List.exists_cons_of_ne_nil htokens
  rw [prepare, usable_some hmodel, hcons, hgroups]
  rfl

end NameTagger.Parser
