import NameTagger.Parse.Decode

/-!
# Ways to ask for a name

A name can be asked for in several forms.  For rows, documents and columns a name may be absent, in
which case neither a parser nor a model is looked at.

* `AnswerForm`, `Answer`: the forms, and what comes of each;
* `Parser.answer`: what a parser answers;
* `AnswerForm.ask`: the answer where the parser has to be got first.
-/

namespace NameTagger

/-- The forms in which a name can be asked for. -/
inductive AnswerForm where
  | parsed
  | rows
  | document
  | columns
  | several (n : Int)
  | cacheRecord
deriving DecidableEq, Repr

/-- A name in one of the forms. -/
inductive Answer where
  | parsed (parsed : ParsedName)
  | rows (rows : List (String × String))
  | document (text? : Option String)
  | columns (parsed? : Option ParsedName)
  | several (labelings : List (List String × Float))
  | cacheRecord (record : CacheRecord)

/-- The answer in a form for an absent name, if the form has one. -/
def AnswerForm.absent? : AnswerForm → Option Answer
  | .rows => some (.rows [])
  | .document => some (.document none)
  | .columns => some (.columns none)
  | _ => none

variable {σ : Type} (codec : Json.Codec)

/-- What a parser answers. -/
def Parser.answer (parser : Parser σ) (form : AnswerForm) (milliseconds : Float)
    (text? : Option String) (model? : Option Model) : Action σ Answer := do
  match form with
  | .several n => return .several (← parser.decodeBest text? model? n)
  | .parsed => return .parsed (← parser.decode milliseconds text? model?)
  | .rows => return .rows (← parser.decode milliseconds text? model?).rows
  | .document =>
      let parsed ← parser.decode milliseconds text? model?
      return .document (some (← Action.ofExcept (parsed.document codec)))
  | .columns => return .columns (some (← parser.decode milliseconds text? model?))
  | .cacheRecord =>
      let parsed ← parser.decode milliseconds text? model?
      return .cacheRecord (← Action.ofExcept (parsed.cacheRecord codec text?))

/-- The answer of the parser that `acquire` gets; an absent name may need none. -/
def AnswerForm.ask (form : AnswerForm) (acquire : Action σ (Parser σ)) (milliseconds : Float)
    (text? : Option String) (model? : Option Model) : Action σ Answer := do
  match text?, form.absent? with
  | none, some answer => return answer
  | _, _ =>
      let parser ← acquire
      parser.answer codec form milliseconds text? model?

end NameTagger
