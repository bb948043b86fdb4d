import NameTagger.Proofs.Keyed
import NameTagger.Proofs.Model.Action
import NameTagger.Proofs.Parse.Outcome
import NameTagger.Proofs.Token.Again

/-!
# Names by columns

The texts of a parsed name are put into columns by the components of the tokens.  If there are no
spaces in the texts, they can be taken out of the columns again, and the components tell where each
of them stood.

* `ParsedToken.textsIn`: the texts that belong to a column, in order;
* `Buckets.put_eq_update`, `ParsedName.lookup_buckets`: putting a text into a column, and what there
  is in the columns behind all texts;
* `ParsedName.column?_eq`: the content of a column;
* `ParsedName.pieces_eq`, `ParsedToken.perm_textsIn`: the columns hold the texts, each of them once;
* `ParsedToken.map_text_eq`: components and columns determine the texts;
* `Parser.map_text_of_decode`: the texts of a name that is decoded are those of its tokens;
* `ParsedName.columns_partition`: all of this for every parsed name.
-/

namespace NameTagger

/-! ### Columns -/

namespace Column

theorem mem_all (column : Column) : column ∈ all := by cases column <;> decide

theorem nodup_all : all.Nodup := by decide

theorem name_injective : Function.Injective name := by
  intro a b h
  cases a <;> cases b <;> first | rfl | exact absurd h (by decide)

end Column

/-! ### Texts of a column -/

namespace ParsedToken

/-- The column of a token. -/
def column (token : ParsedToken) : Column := Column.ofComponent token.label

/-- The texts of the tokens that belong to a column, in order. -/
def textsIn (tokens : List ParsedToken) (column : Column) : List String :=
  (tokens.filter fun token => token.column = column).map (·.text)

@[simp] theorem textsIn_nil (column : Column) : textsIn [] column = [] := rfl

theorem textsIn_cons (token : ParsedToken) (tokens : List ParsedToken) (column : Column) :
    textsIn (token :: tokens) column =
      if token.column = column then token.text :: textsIn tokens column
      else textsIn tokens column := by
  rw [textsIn, List.filter_cons]
  split <;> simp_all [textsIn]

theorem textsIn_concat (tokens : List ParsedToken) (token : ParsedToken) (column : Column) :
    textsIn (tokens ++ [token]) column =
      if token.column = column then textsIn tokens column ++ [token.text]
      else textsIn tokens column := by
  rw [textsIn, List.filter_append, List.map_append, ← textsIn, ← textsIn, textsIn_cons]
  split <;> simp

theorem textsIn_eq_nil_iff {tokens : List ParsedToken} {column : Column} :
    textsIn tokens column = [] ↔ ∀ token ∈ tokens, token.column ≠ column := by
  simp [textsIn, List.filter_eq_nil_iff]

end ParsedToken

/-- With a text more in one of several columns there is that text more in all of them. -/
theorem perm_flatMap_of_cons {columns : List Column} (hcolumns : columns.Nodup) {column : Column}
    (hmem : column ∈ columns) {texts texts' : Column → List String} {text : String}
    (hcolumn : texts' column = text :: texts column)
    (hothers : ∀ c, c ≠ column → texts' c = texts c) :
    (columns.flatMap texts').Perm (text :: columns.flatMap texts) := by
  obtain ⟨before, after, rfl⟩ := List.append_of_mem hmem
  obtain ⟨-, hafter, hapart⟩ := List.nodup_append.1 hcolumns
  have hsame {cs : List Column} (hcs : column ∉ cs) : cs.flatMap texts' = cs.flatMap texts :=
    List.flatMap_congr fun c hc => hothers c (ne_of_mem_of_not_mem hc hcs)
  have hbefore : column ∉ before := fun h => hapart column h column List.mem_cons_self rfl
  rw [List.flatMap_append, List.flatMap_append, List.flatMap_cons, List.flatMap_cons, hcolumn,
    hsame hbefore, hsame (List.nodup_cons.1 hafter).1]
  exact List.perm_middle

namespace ParsedToken

/-- The columns together hold the text of every token once. -/
theorem perm_textsIn (tokens : List ParsedToken) :
    (Column.all.flatMap (textsIn tokens)).Perm (tokens.map (·.text)) := by
  induction tokens with
  | nil => exact .refl _
  | cons token tokens ih =>
    have hcolumn : textsIn (token :: tokens) token.column =
        token.text :: textsIn tokens token.column := by
      rw [textsIn_cons, if_pos rfl]
    have hothers (c : Column) (hc : c ≠ token.column) :
        textsIn (token :: tokens) c = textsIn tokens c := by
      rw [textsIn_cons, if_neg hc.symm]
    exact (perm_flatMap_of_cons Column.nodup_all (Column.mem_all _) hcolumn hothers).trans
      (ih.cons token.text)

/-- Texts that are in the same columns stand in the same order if their components do. -/
theorem map_text_eq {tokens tokens' : List ParsedToken}
    (hlabels : tokens'.map (·.label) = tokens.map (·.label))
    (htexts : ∀ column, textsIn tokens' column = textsIn tokens column) :
    tokens'.map (·.text) = tokens.map (·.text) := by
  induction tokens generalizing tokens' with
  | nil => rw [List.map_eq_nil_iff.1 hlabels]
  | cons token tokens ih =>
    obtain ⟨token', tokens', rfl, hlabel, hrest⟩ := List.map_eq_cons_iff.1 hlabels
    have hcolumn : token'.column = token.column := congrArg Column.ofComponent hlabel
    have hheads := htexts token.column
    rw [textsIn_cons, textsIn_cons, if_pos hcolumn, if_pos rfl, List.cons.injEq] at hheads
    obtain ⟨htext, htail⟩ := hheads
    have htails (c : Column) : textsIn tokens' c = textsIn tokens c := by
      by_cases hc : token.column = c
      · rwa [← hc]
      · have hothers := htexts c
        rwa [textsIn_cons, textsIn_cons, if_neg (hcolumn ▸ hc), if_neg hc] at hothers
    rw [List.map_cons, List.map_cons, htext, ih hrest htails]

end ParsedToken

/-! ### Putting texts into columns -/

theorem Buckets.put_eq_update (column : Column) (text : String) (buckets : Buckets) :
    buckets.put column text =
      Keyed.update column (fun texts? => texts?.getD [] ++ [text]) buckets := by
  induction buckets with
  | nil => rfl
  | cons bucket buckets ih =>
    obtain ⟨first, texts⟩ := bucket
    rw [put, Keyed.update, ih]
    rfl

/-! ### The columns of a parsed name -/

namespace ParsedName

open ParsedToken (textsIn)

variable (parsed : ParsedName)

theorem buckets_eq_gather :
    parsed.buckets =
      Keyed.gather ParsedToken.column (fun token texts? => texts?.getD [] ++ [token.text])
        parsed.tokens := by
  rw [buckets, Keyed.gather]
  congr 1
  funext buckets token
  exact Buckets.put_eq_update ..

/-- Only columns with texts are there. -/
theorem lookup_buckets (column : Column) :
    parsed.buckets.lookup column =
      if textsIn parsed.tokens column = [] then none else some (textsIn parsed.tokens column) := by
  rw [buckets_eq_gather]
  induction parsed.tokens using List.reverseRecOn with
  | nil => rfl
  | append_singleton tokens token ih =>
    rw [Keyed.gather_concat, Keyed.lookup_update, ih, ParsedToken.textsIn_concat]
    by_cases hcolumn : column = token.column
    · rw [if_pos hcolumn, if_pos hcolumn.symm]
      by_cases hnone : textsIn tokens column = []
      · simp [hnone]
      · simp [hnone]
    · rw [if_neg hcolumn, if_neg (Ne.symm hcolumn)]

theorem map_fst_contents : parsed.contents.map (·.1) = parsed.buckets.map (·.1) := by
  rw [contents, List.map_map]
  rfl

theorem nodup_contents : (parsed.contents.map (·.1)).Nodup := by
  rw [map_fst_contents, buckets_eq_gather]
  exact Keyed.nodup_gather ..

/-- A column with texts has them for its content, with spaces between them. -/
theorem column?_eq (column : Column) :
    parsed.column? column =
      if textsIn parsed.tokens column = [] then none
      else some (String.intercalate " " (textsIn parsed.tokens column)) := by
  rw [column?, contents, Keyed.lookup_map_snd, lookup_buckets]
  split <;> rfl

/-- The texts between the spaces of a column. -/
def pieces (column : Column) : List String :=
  match parsed.column? column with
  | none => []
  | some content => (content.toList.splitOn ' ').map String.ofList

/-- No text has a space. -/
def IsSpaceless : Prop := ∀ token ∈ parsed.tokens, ' ' ∉ token.text.toList

variable {parsed}

theorem pieces_eq (h : parsed.IsSpaceless) (column : Column) :
    parsed.pieces column = textsIn parsed.tokens column := by
  rw [pieces, column?_eq]
  by_cases hnone : textsIn parsed.tokens column = []
  · rw [if_pos hnone, hnone]
  · have hspaceless : ∀ text ∈ (textsIn parsed.tokens column).map String.toList, ' ' ∉ text := by
      refine List.forall_mem_map.2 (List.forall_mem_map.2 fun token htoken => ?_)
      exact h token (List.mem_of_mem_filter htoken)
    rw [if_neg hnone]
    show ((String.toList _).splitOn ' ').map String.ofList = _
    rw [String.toList_intercalate]
    show (([' '].intercalate _).splitOn ' ').map String.ofList = _
    rw [List.splitOn_intercalate ' ' hspaceless (mt List.map_eq_nil_iff.1 hnone), List.map_map]
    exact (List.map_congr_left fun text _ => String.ofList_toList).trans (List.map_id' _)

end ParsedName

/-! ### Names that are decoded -/

theorem map_eq_of_mapM {α β γ : Type} {f : α → Except Fault β} {g : β → γ} {g' : α → γ}
    (h : ∀ a b, f a = .ok b → g b = g' a) {l : List α} {bs : List β} (hl : l.mapM f = .ok bs) :
    bs.map g = l.map g' := by
  induction l generalizing bs with
  | nil =>
    obtain rfl := Except.ok.inj hl
    rfl
  | cons a l ih =>
    rw [List.mapM_cons] at hl
    obtain ⟨b, hb, hl⟩ := exists_of_bind_eq_ok hl
    obtain ⟨rest, hrest, hl⟩ := exists_of_bind_eq_ok hl
    obtain rfl := Except.ok.inj hl
    rw [List.map_cons, List.map_cons, h a b hb, ih hrest]

variable {σ W : Type}

/-- Tokens keep their texts when they are labeled. -/
theorem Tagging.map_text_of_tokens {tagging : Tagging} {model : Model W} {tokens : List Token}
    {labeled : List ParsedToken} (h : tagging.tokens model tokens = .ok labeled) :
    labeled.map (·.text) = tokens.map Token.text := by
  have htoken (piece : Token × Int) (labeled : ParsedToken)
      (hlabeled : tagging.token model piece.1 piece.2 = .ok labeled) :
      labeled.text = piece.1.text := by
    obtain ⟨confidence, -, hlabeled⟩ := exists_of_bind_eq_ok hlabeled
    obtain rfl := Except.ok.inj hlabeled
    rfl
  rw [Tagging.tokens] at h
  split at h
  · next hlength =>
    have hzip : (tokens.zip tagging.labelIds).map (·.1) = tokens :=
      List.map_fst_zip (Nat.le_of_eq hlength.symm)
    rw [map_eq_of_mapM htoken h, ← congrArg (List.map Token.text) hzip, List.map_map]
    rfl
  · cases h

namespace Parser

variable [OfScientific W] {parser : Parser σ W} {milliseconds : Float} {text? : Option String}
  {model? : Option (Model W)}

theorem tokens_of_prepare {prepared : Prepared W}
    (h : parser.prepare text? model? = .ok prepared) :
    prepared.tokens = Token.ofText (text?.getD "") := by
  obtain ⟨model, -, h⟩ := exists_of_bind_eq_ok h
  split at h
  · cases h
  · next htokens =>
    obtain ⟨groups, -, h⟩ := exists_of_bind_eq_ok h
    obtain rfl := Except.ok.inj h
    rfl

/-- The texts of a name that is decoded are those of its tokens, whatever the tagger does. -/
theorem map_text_of_decode {s : σ} {parsed : ParsedName}
    (h : ((parser.decode milliseconds text? model?).perform s).1 = .ok parsed) :
    parsed.tokens.map (·.text) = (Token.ofText (text?.getD "")).map Token.text := by
  obtain ⟨prepared, s, hprepare, h⟩ := Action.exists_of_bind h
  obtain ⟨tagging, s, -, h⟩ := Action.exists_of_bind h
  obtain ⟨tokens, s, htokens, h⟩ := Action.exists_of_bind h
  obtain rfl := Except.ok.inj h
  rw [← tokens_of_prepare hprepare]
  exact Tagging.map_text_of_tokens htokens

theorem isSpaceless_of_decode {s : σ} {parsed : ParsedName}
    (h : ((parser.decode milliseconds text? model?).perform s).1 = .ok parsed) :
    parsed.IsSpaceless ∧ ∀ token ∈ parsed.tokens, token.text ≠ "" := by
  have hword : ∀ token ∈ parsed.tokens, Text.IsWord token.text.toList := fun token hmem => by
    have htext := List.mem_map_of_mem (f := ParsedToken.text) hmem
    rw [map_text_of_decode h] at htext
    obtain ⟨source, hsource, heq⟩ := List.mem_map.1 htext
    rw [← heq]
    exact (Token.isWhole_of_mem_ofText hsource).isWord
  refine ⟨fun token hmem hspace => ?_, fun token hmem hempty => ?_⟩
  · exact absurd ((hword token hmem).2 ' ' hspace) (by decide)
  · exact (hword token hmem).1 (by rw [hempty]; rfl)

end Parser

/-! ### Names by columns -/

namespace ParsedName

/-- The columns of a parsed name are ten, and each of them is given once at most.  It has no content
just if no component belongs to it, and else the texts of its tokens in order.  If the texts have no
spaces, as in every name that is decoded, the columns give them back: each text once, in the order
of its column, and in the order of the name to whom the components are known. -/
theorem columns_partition :
    (∀ parsed : ParsedName, (parsed.contents.map (·.1.name)).Nodup ∧
      parsed.contents.map (·.1.name) ⊆ Column.all.map Column.name) ∧
    (∀ (parsed : ParsedName) (column : Column),
      (parsed.column? column = none ↔ ∀ token ∈ parsed.tokens, token.column ≠ column) ∧
      ∀ content, parsed.column? column = some content →
        content = String.intercalate " " (ParsedToken.textsIn parsed.tokens column)) ∧
    (∀ parsed : ParsedName, parsed.IsSpaceless →
      (∀ column, parsed.pieces column = ParsedToken.textsIn parsed.tokens column) ∧
      (Column.all.flatMap parsed.pieces).Perm (parsed.tokens.map (·.text)) ∧
      ∀ parsed' : ParsedName, parsed'.IsSpaceless →
        parsed'.tokens.map (·.label) = parsed.tokens.map (·.label) →
        (∀ column, parsed'.column? column = parsed.column? column) →
          parsed'.tokens.map (·.text) = parsed.tokens.map (·.text)) ∧
    ∀ {σ W : Type} [OfScientific W] (parser : Parser σ W) (milliseconds : Float)
      (text? : Option String) (model? : Option (Model W)) (s : σ) (parsed : ParsedName),
      ((parser.decode milliseconds text? model?).perform s).1 = .ok parsed →
        parsed.IsSpaceless ∧ ∀ token ∈ parsed.tokens, token.text ≠ "" := by
  refine ⟨fun parsed => ⟨?_, ?_⟩, fun parsed column => ⟨?_, fun content hcontent => ?_⟩,
    fun parsed hspaceless => ⟨pieces_eq hspaceless, ?_,
      fun parsed' hspaceless' hlabels hcolumns => ?_⟩,
    fun parser _ _ _ _ _ => Parser.isSpaceless_of_decode⟩
  · have hnodup := parsed.nodup_contents.map Column.name_injective
    rwa [List.map_map] at hnodup
  · refine List.forall_mem_map.2 fun content _ => ?_
    exact List.mem_map_of_mem (Column.mem_all content.1)
  · rw [column?_eq, ← ParsedToken.textsIn_eq_nil_iff]
    by_cases hnone : ParsedToken.textsIn parsed.tokens column = []
    · simp [hnone]
    · simp [hnone]
  · rw [column?_eq] at hcontent
    split at hcontent
    · cases hcontent
    · exact (Option.some.inj hcontent).symm
  · rw [funext (pieces_eq hspaceless)]
    exact ParsedToken.perm_textsIn parsed.tokens
  · refine ParsedToken.map_text_eq hlabels fun column => ?_
    rw [← pieces_eq hspaceless, ← pieces_eq hspaceless', pieces, pieces, hcolumns]

end ParsedName

/-- A tagger that gives every name the same two labels. -/
def Tagger.steady : Tagger Unit where
  best _ _ := pure ⟨[0, 1], 0.5, none⟩
  several _ _ _ := pure []

namespace ParsedName

/-- A name whose surname stands around a given name. -/
def interleaved : ParsedName where
  tokens := [⟨"Van", "Surname", none, 0, 3⟩, ⟨"Ann", "GivenName", none, 4, 7⟩,
    ⟨"Dyke", "Surname", none, 8, 12⟩]
  confidence := 0.5
  modelVersion := none
  milliseconds := 0.5

/-- The surname is put together, and the texts come out of the columns; so they do for a name that
is decoded. -/
theorem columns_partition_interleaved :
    interleaved.IsSpaceless ∧ interleaved.column? .surname = some "Van Dyke" ∧
    interleaved.pieces .surname = ["Van", "Dyke"] ∧
    (Column.all.flatMap interleaved.pieces).Perm ["Van", "Ann", "Dyke"] ∧
    ∃ parsed, (((⟨.steady, .all⟩ : Parser Unit).decode 0.5 (some "Ann, Lee")
      (some .featureless)).perform ()).1 = .ok parsed ∧ parsed.IsSpaceless := by
  obtain ⟨-, -, hpieces, hdecode⟩ := columns_partition
  have hspaceless : interleaved.IsSpaceless := by
    simp only [IsSpaceless, interleaved, List.forall_mem_cons]
    decide
  obtain ⟨heach, hall, -⟩ := hpieces interleaved hspaceless
  refine ⟨hspaceless, by decide, heach .surname, hall, ?_⟩
  have htokens : Token.ofText "Ann, Lee" =
      [⟨"Ann", 0, 0, 3, true, false⟩, ⟨"Lee", 1, 5, 8, false, true⟩] := by decide +kernel
  have hne : Token.ofText ((some "Ann, Lee").getD "") ≠ [] := by
    rw [Option.getD_some, htokens]
    exact List.cons_ne_nil _ _
  have hloaded : Model.featureless.isLoaded = true := rfl
  have hprepare := Parser.prepare_eq_ok (⟨.steady, .all⟩ : Parser Unit) hloaded hne
    (GroupChoice.names_ofNames Feature.Group.names)
  rw [Option.getD_some, htokens] at hprepare
  have hok : ∃ parsed, (((⟨.steady, .all⟩ : Parser Unit).decode 0.5 (some "Ann, Lee")
      (some .featureless)).perform ()).1 = .ok parsed := by
    rw [Parser.decode, hprepare]
    exact ⟨_, rfl⟩
  obtain ⟨parsed, hparsed⟩ := hok
  exact ⟨parsed, hparsed, (hdecode _ _ _ _ _ _ hparsed).1⟩

end ParsedName

end NameTagger
