import DarkGravity.Proofs.Json.Tokens

/-!
# Reading what was written

A value that is written and read again is the same value (`parse_render`). The text of a value is
cut into tokens whatever delimiter follows (`Cut`), and the reader puts the value that these tokens
make wherever a value may begin (`Makes`); for arrays and objects both follow by induction over
their parts.
-/

namespace DarkGravity.Json

/-- A value whose numbers are natural numbers. -/
inductive Natural : Json → Prop
  | null : Natural .null
  | bool (value : Bool) : Natural (.bool value)
  | ofNat (n : ℕ) : Natural (.ofNat n)
  | string (text : Option String) : Natural (.string text)
  | array {items : List Json} (h : ∀ item ∈ items, Natural item) : Natural (.array items)
  | object {fields : List (Option String × Json)} (h : ∀ field ∈ fields, Natural field.2) :
    Natural (.object fields)

/-! ## Cutting -/

/-- The text is cut into the tokens, whatever delimiter follows. -/
def Cut (text : List Char) (tokens : List Token) : Prop :=
  ∀ ⦃rest⦄, Delimited rest →
    tokens? .between (text ++ rest) = (tokens? .between rest).map (tokens ++ ·)

theorem scanBetween_of_punctuation {c : Char} {token : Token} (h : punctuation? c = some token) :
    scanBetween c = some (.between, [token]) ∧ inNumber c = false ∧ c.isAlpha = false := by
  unfold punctuation? at h
  split at h <;> cases h <;> exact ⟨rfl, by decide⟩

namespace Cut

variable {text more : List Char} {tokens later : List Token}

theorem nil : Cut [] [] := fun _ _ => Eq.symm Option.map_id'

theorem quote (text : Option String) : Cut (quote text) [.string text] :=
  fun rest _ => tokens?_quote rest text

/-- Before a mark of punctuation a text is cut as on its own. -/
theorem append (h : Cut text tokens) {c : Char} {token : Token} (hc : punctuation? c = some token)
    (hmore : Cut more later) : Cut (text ++ c :: more) (tokens ++ token :: later) := by
  intro rest hrest
  obtain ⟨hscan, hdelimits⟩ := scanBetween_of_punctuation hc
  have hstep : Scan.step .between c = some (.between, [token]) := hscan
  rw [List.append_assoc, List.cons_append, h (delimited_cons hdelimits _), tokens?_cons hstep,
    hmore hrest, Option.map_map, Option.map_map]
  congr 1
  funext last
  simp

/-- A mark of punctuation before a text. -/
theorem cons {c : Char} {token : Token} (hc : punctuation? c = some token)
    (h : Cut text tokens) : Cut (c :: text) (token :: tokens) :=
  nil.append hc h

/-- A text between two marks of punctuation. -/
theorem enclose {first last : Char} {opening closing : Token} (h : Cut text tokens)
    (hfirst : punctuation? first = some opening) (hlast : punctuation? last = some closing) :
    Cut (first :: text ++ [last]) (opening :: tokens ++ [closing]) :=
  (cons hfirst h).append hlast nil

end Cut

/-! ## Assembling -/

section

variable {a a' : Assembly} {token : Token} {tokens : List Token}

/-- The first token is taken, and then the others. -/
theorem foldlM_step_cons (h : a.step token = some a') (later : List Token) :
    (token :: later).foldlM Assembly.step a = later.foldlM Assembly.step a' := by
  rw [List.foldlM_cons, h]
  rfl

/-- The first tokens are taken, and then the others. -/
theorem foldlM_step_append (h : tokens.foldlM Assembly.step a = some a') (later : List Token) :
    (tokens ++ later).foldlM Assembly.step a = later.foldlM Assembly.step a' := by
  rw [List.foldlM_append, h]
  rfl

end

/-- Where a value may begin the tokens put this value. -/
def Makes (tokens : List Token) (value : Json) : Prop :=
  ∀ frames, ∀ expect ∈ [Expect.value, Expect.firstItem],
    tokens.foldlM Assembly.step ⟨frames, expect⟩ = Assembly.put value frames

/-- Where a value may begin a token is taken as its beginning. -/
theorem step_of_value {expect : Expect} (h : expect ∈ [Expect.value, Expect.firstItem])
    (frames : List Frame) {token : Token} (htoken : token ≠ .closeArray) :
    Assembly.step ⟨frames, expect⟩ token = Assembly.beginValue frames token := by
  simp only [List.mem_cons, List.not_mem_nil, or_false] at h
  rcases h with rfl | rfl
  · rfl
  · exact if_neg htoken

/-- A token that is a value by itself. -/
theorem makes_singleton {token : Token} {value : Json} (htoken : token ≠ .closeArray)
    (h : ∀ frames, Assembly.beginValue frames token = Assembly.put value frames) :
    Makes [token] value := by
  intro frames expect hexpect
  rw [List.foldlM_cons, step_of_value hexpect frames htoken, h]
  exact Option.bind_fun_some _

theorem makes_emptyArray : Makes [.openArray, .closeArray] (.array []) := by
  intro frames expect hexpect
  rw [List.foldlM_cons, step_of_value hexpect frames (by decide)]
  exact Option.bind_fun_some _

theorem makes_emptyObject : Makes [.openObject, .closeObject] (.object []) := by
  intro frames expect hexpect
  rw [List.foldlM_cons, step_of_value hexpect frames (by decide)]
  exact Option.bind_fun_some _

/-- The tokens put these items into the array that is open. -/
def MakesItems (tokens : List Token) (items : List Json) : Prop :=
  ∀ done frames, ∀ expect ∈ [Expect.value, Expect.firstItem],
    tokens.foldlM Assembly.step ⟨.array done :: frames, expect⟩ =
      some ⟨.array (items.reverse ++ done) :: frames, .separator⟩

/-- The tokens put these fields into the object that is open. -/
def MakesFields (tokens : List Token) (fields : List (Option String × Json)) : Prop :=
  ∀ done frames, ∀ expect ∈ [Expect.name, Expect.firstName],
    tokens.foldlM Assembly.step ⟨.object done :: frames, expect⟩ =
      some ⟨.object (fields.reverse ++ done) :: frames, .separator⟩

section

variable {tokens later : List Token} {item : Json} {items : List Json} {name : Option String}
  {fields : List (Option String × Json)}

theorem Makes.items_singleton (h : Makes tokens item) : MakesItems tokens [item] :=
  fun done frames => h (.array done :: frames)

theorem Makes.items_cons (h : Makes tokens item) (hlater : MakesItems later items) :
    MakesItems (tokens ++ .comma :: later) (item :: items) := by
  intro done frames expect hexpect
  have hcomma : Assembly.step ⟨.array (item :: done) :: frames, .separator⟩ .comma =
      some ⟨.array (item :: done) :: frames, .value⟩ := rfl
  have hput : tokens.foldlM Assembly.step ⟨.array done :: frames, expect⟩ =
      some ⟨.array (item :: done) :: frames, .separator⟩ := h _ expect hexpect
  rw [foldlM_step_append hput, foldlM_step_cons hcomma, hlater _ _ .value (by simp),
    List.reverse_cons, List.append_assoc, List.singleton_append]

theorem MakesItems.array (h : MakesItems tokens items) :
    Makes (.openArray :: tokens ++ [.closeArray]) (.array items) := by
  intro frames expect hexpect
  have hopen : Assembly.step ⟨frames, expect⟩ .openArray =
      some ⟨.array [] :: frames, .firstItem⟩ := step_of_value hexpect frames (by decide)
  have hclose : Assembly.step ⟨.array items.reverse :: frames, .separator⟩ .closeArray =
      Assembly.put (.array items.reverse.reverse) frames := rfl
  rw [List.cons_append, foldlM_step_cons hopen, foldlM_step_append (h _ _ .firstItem (by simp)),
    List.append_nil, List.foldlM_cons, hclose, List.reverse_reverse]
  exact Option.bind_fun_some _

/-- The tokens of a field after its name was expected. -/
theorem foldlM_field (h : Makes tokens item) (done : List (Option String × Json))
    (frames : List Frame) {expect : Expect} (hexpect : expect ∈ [Expect.name, Expect.firstName])
    (later : List Token) :
    (Token.string name :: .colon :: tokens ++ later).foldlM Assembly.step
        ⟨.object done :: frames, expect⟩ =
      later.foldlM Assembly.step ⟨.object ((name, item) :: done) :: frames, .separator⟩ := by
  have hname : Assembly.step ⟨.object done :: frames, expect⟩ (.string name) =
      some ⟨.member done name :: frames, .colon⟩ := by
    simp only [List.mem_cons, List.not_mem_nil, or_false] at hexpect
    rcases hexpect with rfl | rfl <;> rfl
  have hcolon : Assembly.step ⟨.member done name :: frames, .colon⟩ .colon =
      some ⟨.member done name :: frames, .value⟩ := rfl
  have hput : tokens.foldlM Assembly.step ⟨.member done name :: frames, .value⟩ =
      some ⟨.object ((name, item) :: done) :: frames, .separator⟩ := h _ .value (by simp)
  rw [List.cons_append, List.cons_append, foldlM_step_cons hname, foldlM_step_cons hcolon,
    foldlM_step_append hput]

theorem Makes.fields_singleton (h : Makes tokens item) :
    MakesFields (.string name :: .colon :: tokens) [(name, item)] := by
  intro done frames expect hexpect
  rw [← List.append_nil (_ :: _ :: tokens)]
  exact foldlM_field h done frames hexpect []

theorem Makes.fields_cons (h : Makes tokens item) (hlater : MakesFields later fields) :
    MakesFields (.string name :: .colon :: tokens ++ .comma :: later) ((name, item) :: fields) := by
  intro done frames expect hexpect
  have hcomma : Assembly.step ⟨.object ((name, item) :: done) :: frames, .separator⟩ .comma =
      some ⟨.object ((name, item) :: done) :: frames, .name⟩ := rfl
  rw [foldlM_field h done frames hexpect, foldlM_step_cons hcomma, hlater _ _ .name (by simp),
    List.reverse_cons, List.append_assoc, List.singleton_append]

theorem MakesFields.object (h : MakesFields tokens fields) :
    Makes (.openObject :: tokens ++ [.closeObject]) (.object fields) := by
  intro frames expect hexpect
  have hopen : Assembly.step ⟨frames, expect⟩ .openObject =
      some ⟨.object [] :: frames, .firstName⟩ := step_of_value hexpect frames (by decide)
  have hclose : Assembly.step ⟨.object fields.reverse :: frames, .separator⟩ .closeObject =
      Assembly.put (.object fields.reverse.reverse) frames := rfl
  rw [List.cons_append, foldlM_step_cons hopen, foldlM_step_append (h _ _ .firstName (by simp)),
    List.append_nil, List.foldlM_cons, hclose, List.reverse_reverse]
  exact Option.bind_fun_some _

end

/-! ## Values -/

/-- The text of a value is cut into tokens that make this value. -/
def Legible (value : Json) : Prop :=
  ∃ tokens, Cut value.write tokens ∧ Makes tokens value

/-- A token that is a value by itself and is written as a word. -/
theorem legible_word {value : Json} {first : Char} {letters : List Char} {token : Token}
    (hwrite : value.write = first :: letters)
    (hbegin : scanBetween first = some (.word [first], []))
    (hletters : letters.all Char.isAlpha = true)
    (hcomplete : Scan.complete (.word (letters.reverse ++ [first])) = some [token])
    (htoken : token ≠ .closeArray)
    (hmakes : ∀ frames, Assembly.beginValue frames token = Assembly.put value frames) :
    Legible value := by
  refine ⟨[token], fun rest hrest => ?_, makes_singleton htoken hmakes⟩
  rw [hwrite]
  exact tokens?_word hbegin (List.all_eq_true.mp hletters) hcomplete hrest

/-- The items of an array that is not empty. -/
theorem exists_items {items : List Json} (hne : items ≠ []) (h : ∀ item ∈ items, Legible item) :
    ∃ tokens, Cut (writeItems items) tokens ∧ MakesItems tokens items := by
  induction items with
  | nil => exact absurd rfl hne
  | cons item items ih =>
    obtain ⟨⟨tokens, hcut, hmakes⟩, hitems⟩ := List.forall_mem_cons.mp h
    cases items with
    | nil => exact ⟨tokens, by rwa [writeItems], hmakes.items_singleton⟩
    | cons next items =>
      obtain ⟨later, hcut', hmakes'⟩ := ih (List.cons_ne_nil _ _) hitems
      refine ⟨tokens ++ .comma :: later, ?_, hmakes.items_cons hmakes'⟩
      rw [writeItems]
      · exact hcut.append rfl hcut'
      · exact List.cons_ne_nil _ _

/-- The fields of an object that is not empty. -/
theorem exists_fields {fields : List (Option String × Json)} (hne : fields ≠ [])
    (h : ∀ field ∈ fields, Legible field.2) :
    ∃ tokens, Cut (writeFields fields) tokens ∧ MakesFields tokens fields := by
  induction fields with
  | nil => exact absurd rfl hne
  | cons field fields ih =>
    obtain ⟨name, value⟩ := field
    obtain ⟨⟨tokens, hcut, hmakes⟩, hfields⟩ := List.forall_mem_cons.mp h
    have hcut : Cut (quote name ++ ':' :: write value) (.string name :: .colon :: tokens) :=
      (Cut.quote name).append rfl hcut
    cases fields with
    | nil => exact ⟨_, by rwa [writeFields], hmakes.fields_singleton⟩
    | cons next fields =>
      obtain ⟨later, hcut', hmakes'⟩ := ih (List.cons_ne_nil _ _) hfields
      refine ⟨_, ?_, hmakes.fields_cons hmakes'⟩
      rw [writeFields]
      · exact hcut.append rfl hcut'
      · exact List.cons_ne_nil _ _

/-- Every value is legible, by induction over its parts. -/
theorem Natural.legible {value : Json} (h : value.Natural) : Legible value := by
  induction h with
  | null => exact legible_word rfl rfl rfl rfl (by decide) fun _ => rfl
  | bool value =>
    cases value with
    | true => exact legible_word rfl rfl rfl rfl (by decide) fun _ => rfl
    | false => exact legible_word rfl rfl rfl rfl (by decide) fun _ => rfl
  | ofNat n =>
    exact ⟨[.number (toString n)], fun rest hrest => tokens?_ofNat n hrest,
      makes_singleton (by simp) fun _ => rfl⟩
  | string text => exact ⟨[.string text], Cut.quote text, makes_singleton (by simp) fun _ => rfl⟩
  | @array items _ ih =>
    rcases eq_or_ne items [] with rfl | hne
    · exact ⟨_, Cut.nil.enclose rfl rfl, makes_emptyArray⟩
    · obtain ⟨tokens, hcut, hmakes⟩ := exists_items hne ih
      exact ⟨_, hcut.enclose rfl rfl, hmakes.array⟩
  | @object fields _ ih =>
    rcases eq_or_ne fields [] with rfl | hne
    · exact ⟨_, Cut.nil.enclose rfl rfl, makes_emptyObject⟩
    · obtain ⟨tokens, hcut, hmakes⟩ := exists_fields hne ih
      exact ⟨_, hcut.enclose rfl rfl, hmakes.object⟩

/-- The text of a value is read as this value. -/
theorem Natural.exists_readFrom {value : Json} (h : value.Natural) :
    ∃ stop, readFrom .start .start value.render.toList = .ok (value, stop) := by
  obtain ⟨tokens, hcut, hmakes⟩ := h.legible
  have htokens := hcut delimited_nil
  rw [List.append_nil] at htokens
  have hall : tokens? Reader.start.scan value.render.toList = some tokens := by
    rw [render, String.toList_ofList, Reader.start, htokens, tokens?, Scan.complete,
      Option.map_some, List.append_nil]
  exact Json.exists_readFrom hall (hmakes [] .value (by simp)) rfl .start

theorem parse_render {value : Json} (h : value.Natural) : parse value.render = .ok value := by
  obtain ⟨stop, hstop⟩ := h.exists_readFrom
  rw [parse, hstop]
  rfl

/-- What a value stands for is read off its text. -/
theorem parseAs_render {α : Type} {decode : Json → Option α} {value : Json} {a : α}
    (h : value.Natural) (hdecode : decode value = some a) :
    parseAs decode value.render = .ok a := by
  obtain ⟨stop, hstop⟩ := h.exists_readFrom
  simp only [parseAs, hstop, hdecode]

end DarkGravity.Json
