import DarkGravity.Json.Printer
import DarkGravity.Json.Reader
import Mathlib.Data.List.Basic
import Mathlib.Data.List.TakeWhile

/-!
# Tokens of written text

The reader takes a text character by character and assembles tokens on the way. A text that it
reads can as well be cut into its tokens first (`tokens?`) and assembled then (`exists_readFrom`).
What the printer writes for a string, a number or a word is cut into this one token, whatever
follows: the quote ends a string, and a number or a word ends where no character that belongs to it
follows (`Delimited`).
-/

namespace DarkGravity.Json

/-! ## Reading in two passes -/

/-- The tokens of a text that ends here, from within a scan on. -/
def tokens? : Scan → List Char → Option (List Token)
  | scan, [] => scan.complete
  | scan, c :: rest => do
    let (next, tokens) ← scan.step c
    return tokens ++ (← tokens? next rest)

section

variable {scan next : Scan} {c : Char} {rest : List Char} {tokens : List Token}

theorem tokens?_cons (h : scan.step c = some (next, tokens)) :
    tokens? scan (c :: rest) = (tokens? next rest).map (tokens ++ ·) := by
  rw [tokens?, h]
  cases htokens : tokens? next rest <;> simp [htokens]

/-- A character that completes no token. -/
theorem tokens?_cons_of_silent (h : scan.step c = some (next, [])) :
    tokens? scan (c :: rest) = tokens? next rest := by
  rw [tokens?_cons h]
  exact Option.map_id'

/-- If the tokens of a text can be assembled to a value, the text is read as this value. -/
theorem exists_readFrom {text : List Char} {r : Reader} {a : Assembly} {value : Json}
    (htokens : tokens? r.scan text = some tokens)
    (hassembled : tokens.foldlM Assembly.step r.assembly = some a)
    (hvalue : a.expect = .nothing value) (place : Position) :
    ∃ stop, readFrom r place text = .ok (value, stop) := by
  induction text generalizing r place tokens with
  | nil =>
    have hfinish : r.finish = some value := by
      rw [tokens?] at htokens
      simp [Reader.finish, htokens, hassembled, hvalue]
    exact ⟨place, by rw [readFrom, hfinish]⟩
  | cons c rest ih =>
    cases hstep : r.scan.step c with
    | none => simp [tokens?, hstep] at htokens
    | some scanned =>
      obtain ⟨next, tokens⟩ := scanned
      rw [tokens?_cons hstep, Option.map_eq_some_iff] at htokens
      obtain ⟨later, hlater, rfl⟩ := htokens
      rw [List.foldlM_append, Option.bind_eq_bind, Option.bind_eq_some_iff] at hassembled
      obtain ⟨assembly, hassembly, hassembled⟩ := hassembled
      have hread : r.step c = some ⟨next, assembly⟩ := by
        simp [Reader.step, hstep, hassembly]
      obtain ⟨stop, hstop⟩ := ih (r := ⟨next, assembly⟩) hlater hassembled (place.next c)
      refine ⟨stop, ?_⟩
      rw [readFrom, hread]
      exact hstop

end

/-! ## Strings -/

section

variable (pieces : List Piece) (rest : List Char)

theorem step_backslash : Scan.step (.string pieces) '\\' = some (.escape pieces, []) := rfl

/-- A backslash and a letter are read as the character that they stand for. -/
theorem tokens?_escaped {letter c : Char} (h : escaped? letter = some c) (hletter : letter ≠ 'u') :
    tokens? (.string pieces) ('\\' :: letter :: rest) =
      tokens? (.string (.char c :: pieces)) rest := by
  rw [tokens?_cons_of_silent (step_backslash pieces)]
  refine tokens?_cons_of_silent ?_
  rw [Scan.step, if_neg hletter, h]
  rfl

/-- Behind the mark of a code unit one more digit is read. -/
theorem tokens?_unit_digit {digits code d : ℕ} (hd : d < 16) (hdigits : digits ≠ 3) :
    tokens? (.unit pieces digits code) (Hex.digit d :: rest) =
      tokens? (.unit pieces (digits + 1) (16 * code + d)) rest := by
  refine tokens?_cons_of_silent ?_
  rw [Scan.step, Hex.value?_digit d hd]
  simp [hdigits]

/-- Four digits behind the mark are read as the code unit. -/
theorem tokens?_unit {d₀ d₁ d₂ d₃ : ℕ} (h₀ : d₀ < 16) (h₁ : d₁ < 16) (h₂ : d₂ < 16)
    (h₃ : d₃ < 16) :
    tokens? (.string pieces)
        ('\\' :: 'u' :: Hex.digit d₀ :: Hex.digit d₁ :: Hex.digit d₂ :: Hex.digit d₃ :: rest) =
      tokens? (.string (.unit (16 * (16 * (16 * d₀ + d₁) + d₂) + d₃) :: pieces)) rest := by
  have hmark : Scan.step (.escape pieces) 'u' = some (.unit pieces 0 0, []) := rfl
  rw [tokens?_cons_of_silent (step_backslash pieces), tokens?_cons_of_silent hmark,
    tokens?_unit_digit _ _ h₀ (by omega), tokens?_unit_digit _ _ h₁ (by omega),
    tokens?_unit_digit _ _ h₂ (by omega)]
  refine tokens?_cons_of_silent ?_
  rw [Scan.step, Hex.value?_digit d₃ h₃]
  simp

/-- The part of a string that a written character is read as: a control without a short escape is
written as a code unit. -/
def piece (c : Char) : Piece :=
  if c.toNat < 0x20 ∧ c ∉ ['\x08', '\x0c', '\n', '\r', '\t'] then .unit c.toNat else .char c

/-- Inside a string a written character is read as its part. -/
theorem tokens?_escape (c : Char) :
    tokens? (.string pieces) (escape c ++ rest) = tokens? (.string (piece c :: pieces)) rest := by
  by_cases hshort : c ∈ ['"', '\\', '\x08', '\x0c', '\n', '\r', '\t']
  · simp only [List.mem_cons, List.not_mem_nil, or_false] at hshort
    rcases hshort with rfl | rfl | rfl | rfl | rfl | rfl | rfl <;>
      exact tokens?_escaped pieces rest rfl (by decide)
  · simp only [List.mem_cons, List.not_mem_nil, or_false, not_or] at hshort
    obtain ⟨hquote, hbackslash, hback, hfeed, hline, hreturn, htab⟩ := hshort
    rw [escape, if_neg hquote, if_neg hbackslash, if_neg hback, if_neg hfeed, if_neg hline,
      if_neg hreturn, if_neg htab]
    by_cases hcontrol : c.toNat < 0x20
    · have hpiece : piece c = .unit c.toNat :=
        if_pos ⟨hcontrol, by simp [hback, hfeed, hline, hreturn, htab]⟩
      have hzero : 0 < 16 := by omega
      have hhigh : c.toNat / 16 < 16 := by omega
      have hlow : c.toNat % 16 < 16 := by omega
      have hcode : 16 * (16 * (16 * 0 + 0) + c.toNat / 16) + c.toNat % 16 = c.toNat := by omega
      have hread := tokens?_unit pieces rest hzero hzero hhigh hlow
      rw [if_pos hcontrol]
      rwa [hcode, ← hpiece] at hread
    · have hpiece : piece c = .char c := if_neg fun h => hcontrol h.1
      rw [if_neg hcontrol, hpiece]
      refine tokens?_cons_of_silent ?_
      rw [Scan.step, if_neg hquote, if_neg hbackslash, if_neg hcontrol]

/-- So are all characters of a text, the last of them first. -/
theorem tokens?_escapes (text : List Char) :
    tokens? (.string pieces) (text.flatMap escape ++ rest) =
      tokens? (.string ((text.map piece).reverse ++ pieces)) rest := by
  induction text generalizing pieces with
  | nil => rfl
  | cons c text ih =>
    rw [List.flatMap_cons, List.append_assoc, tokens?_escape, ih, List.map_cons,
      List.reverse_cons, List.append_assoc, List.singleton_append]

/-- A unit that is no half of a surrogate pair is the character of its code. -/
theorem joinPieces_unit {code : ℕ} (h : code < 0xd800) :
    joinPieces (.unit code :: pieces) = (joinPieces pieces).map (Char.ofNat code :: ·) := by
  cases pieces with
  | nil => simp [joinPieces, h]
  | cons p pieces => cases p <;> simp [joinPieces, h]

/-- The parts of written characters are these characters. -/
theorem joinPieces_map_piece (text : List Char) : joinPieces (text.map piece) = some text := by
  induction text with
  | nil => rfl
  | cons c text ih =>
    rw [List.map_cons, piece]
    split_ifs with hcontrol
    · rw [joinPieces_unit _ (by omega), ih, Option.map_some, Char.ofNat_toNat]
    · rw [joinPieces, ih]
      rfl

/-- A quote ends a string. -/
theorem tokens?_string_end :
    tokens? (.string pieces) ('"' :: rest) =
      (tokens? .between rest).map
        (.string ((joinPieces pieces.reverse).map String.ofList) :: ·) := by
  have hend : Scan.step (.string pieces) '"' =
      some (.between, [.string ((joinPieces pieces.reverse).map String.ofList)]) := rfl
  exact tokens?_cons hend

/-- A written string is cut into one token. -/
theorem tokens?_quote (text : Option String) :
    tokens? .between (quote text ++ rest) = (tokens? .between rest).map (.string text :: ·) := by
  have hbegin : Scan.step .between '"' = some (.string [], []) := rfl
  cases text with
  | none =>
    have hread := tokens?_unit [] ('"' :: rest) (show 13 < 16 by omega) (show 8 < 16 by omega)
      (show 0 < 16 by omega) (show 0 < 16 by omega)
    rw [tokens?_string_end] at hread
    exact (tokens?_cons_of_silent hbegin).trans hread
  | some text =>
    have hread := tokens?_escapes [] ('"' :: rest) text.toList
    rw [tokens?_string_end, List.append_nil, List.reverse_reverse, joinPieces_map_piece,
      Option.map_some, String.ofList_toList] at hread
    rw [quote, List.cons_append, List.cons_append, tokens?_cons_of_silent hbegin,
      List.append_assoc]
    exact hread

end

/-! ## Numbers and words -/

/-- No character follows that belongs to a number or a word. -/
def Delimited (rest : List Char) : Prop :=
  ∀ c ∈ rest.head?, inNumber c = false ∧ c.isAlpha = false

theorem delimited_nil : Delimited [] := by
  intro c hc
  cases hc

theorem delimited_cons {c : Char} (h : inNumber c = false ∧ c.isAlpha = false)
    (rest : List Char) : Delimited (c :: rest) := by
  intro c' hc'
  obtain rfl := Option.some.inj hc'
  exact h

section

variable {rest : List Char}

/-- Where nothing follows that belongs to the token that was begun, it is complete, and the next
character is read as between tokens. -/
theorem tokens?_of_complete {scan : Scan} {token : Token}
    (hcomplete : scan.complete = some [token])
    (hstep : ∀ c ∈ rest.head?, scan.step c = do
      let (next, tokens) ← scanBetween c
      return (next, [token] ++ tokens)) :
    tokens? scan rest = (tokens? .between rest).map (token :: ·) := by
  cases rest with
  | nil => exact hcomplete
  | cons c rest =>
    have hbetween : Scan.step .between c = scanBetween c := rfl
    rw [tokens?, tokens?, hstep c rfl, hbetween]
    cases scanBetween c with
    | none => rfl
    | some scanned =>
      obtain ⟨next, tokens⟩ := scanned
      cases htokens : tokens? next rest <;> simp [htokens]

/-- Characters that belong to a number are added to it. -/
theorem tokens?_number_append (chars digits : List Char)
    (h : ∀ c ∈ digits, inNumber c = true) :
    tokens? (.number chars) (digits ++ rest) =
      tokens? (.number (digits.reverse ++ chars)) rest := by
  induction digits generalizing chars with
  | nil => rfl
  | cons c digits ih =>
    obtain ⟨hc, hdigits⟩ := List.forall_mem_cons.mp h
    have hstep : Scan.step (.number chars) c = some (.number (c :: chars), []) := by
      rw [Scan.step, if_pos hc]
    rw [List.cons_append, tokens?_cons_of_silent hstep, ih _ hdigits, List.reverse_cons,
      List.append_assoc, List.singleton_append]

theorem inNumber_of_isDigit {c : Char} (h : c.isDigit = true) : inNumber c = true := by
  simp [inNumber, h]

theorem scanBetween_digit :
    ∀ n < 10, scanBetween (Char.ofNat (48 + n)) = some (.number [Char.ofNat (48 + n)], []) := by
  decide

/-- A digit begins a number. -/
theorem scanBetween_of_isDigit {c : Char} (h : c.isDigit = true) :
    scanBetween c = some (.number [c], []) := by
  obtain ⟨hlow, hhigh⟩ : 48 ≤ c.toNat ∧ c.toNat ≤ 57 := by
    rw [Char.isDigit, Bool.and_eq_true, decide_eq_true_iff, decide_eq_true_iff] at h
    exact h
  have hc : Char.ofNat (48 + (c.toNat - 48)) = c := by
    rw [Nat.add_sub_cancel' hlow, Char.ofNat_toNat]
  rw [← hc]
  exact scanBetween_digit _ (by omega)

theorem digitChar_ne_zero : ∀ n < 10, 0 < n → n.digitChar ≠ '0' := by decide

/-- The digits of a number do not begin with zero, unless that is all. -/
theorem head?_toDigits_ne_zero {n : ℕ} (hpos : 0 < n) : (Nat.toDigits 10 n).head? ≠ some '0' := by
  induction n using Nat.strongRecOn with
  | ind n ih =>
    rcases Nat.lt_or_ge n 10 with hone | hmore
    · rw [Nat.toDigits_of_lt_base hone, List.head?_cons, ne_eq, Option.some_inj]
      exact digitChar_ne_zero n hone hpos
    · rw [Nat.toDigits_of_base_le (by omega) hmore,
        List.head?_append_of_ne_nil _ Nat.toDigits_ne_nil]
      exact ih (n / 10) (by omega) (by omega)

/-- Digits without a leading zero are a number. -/
theorem isNumber_of_isDigit {first : Char} {digits : List Char} (hfirst : first ≠ '0')
    (h : ∀ c ∈ first :: digits, c.isDigit = true) : isNumber (first :: digits) = true := by
  have hminus : first ≠ '-' := by
    rintro rfl
    exact absurd (h _ List.mem_cons_self) (by decide)
  have hinteger : afterInteger (first :: digits) = afterDigits (first :: digits) := by
    unfold afterInteger
    split
    · next h => exact absurd (List.cons.inj h).1 hminus
    · next h => exact absurd (List.cons.inj h).1 hminus
    · next h => exact absurd (List.cons.inj h).1 hfirst
    · rfl
  have htake : (first :: digits).takeWhile Char.isDigit = first :: digits :=
    List.takeWhile_eq_self_iff.mpr h
  have hdrop : (first :: digits).dropWhile Char.isDigit = [] := List.dropWhile_eq_nil_iff.mpr h
  have hdigits : afterDigits (first :: digits) = some [] := by
    rw [afterDigits, htake, hdrop]
    rfl
  rw [isNumber, hinteger, hdigits]
  rfl

/-- The digits of a number begin with a first one. -/
theorem exists_toDigits_eq_cons (n : ℕ) :
    ∃ first digits, Nat.toDigits 10 n = first :: digits ∧
      ∀ c ∈ first :: digits, c.isDigit = true := by
  obtain ⟨first, digits, hcons⟩ :=
    List.exists_cons_of_ne_nil (Nat.toDigits_ne_nil (n := n) (b := 10))
  refine ⟨first, digits, hcons, fun c hc => ?_⟩
  rw [← hcons] at hc
  exact Nat.isDigit_of_mem_toDigits (by omega) (by omega) hc

/-- The digits of a number are a number. -/
theorem isNumber_toDigits (n : ℕ) : isNumber (Nat.toDigits 10 n) = true := by
  rcases Nat.eq_zero_or_pos n with rfl | hpos
  · rfl
  · obtain ⟨first, digits, hcons, hdigits⟩ := exists_toDigits_eq_cons n
    have hzero := head?_toDigits_ne_zero hpos
    rw [hcons, List.head?_cons, ne_eq, Option.some_inj] at hzero
    rw [hcons]
    exact isNumber_of_isDigit hzero hdigits

/-- A written number is cut into one token. -/
theorem tokens?_ofNat (n : ℕ) (hrest : Delimited rest) :
    tokens? .between ((Json.ofNat n).write ++ rest) =
      (tokens? .between rest).map (.number (toString n) :: ·) := by
  have htext : (Json.ofNat n).write = Nat.toDigits 10 n := by
    have hwrite : (Json.ofNat n).write = (toString n).toList := rfl
    rw [hwrite, Nat.toString_eq_ofList_toDigits, String.toList_ofList]
  obtain ⟨first, digits, hcons, hdigits⟩ := exists_toDigits_eq_cons n
  have hcomplete : Scan.complete (.number (digits.reverse ++ [first])) =
      some [.number (toString n)] := by
    have hreverse : (digits.reverse ++ [first]).reverse = Nat.toDigits 10 n := by simp [hcons]
    rw [Scan.complete, hreverse, isNumber_toDigits, Nat.toString_eq_ofList_toDigits]
    rfl
  obtain ⟨hfirst, hdigits⟩ := List.forall_mem_cons.mp hdigits
  have hbegin : Scan.step .between first = some (.number [first], []) :=
    scanBetween_of_isDigit hfirst
  rw [htext, hcons, List.cons_append, tokens?_cons_of_silent hbegin,
    tokens?_number_append _ _ fun c hc => inNumber_of_isDigit (hdigits c hc)]
  refine tokens?_of_complete hcomplete fun c hc => ?_
  rw [Scan.step, if_neg (by simp [(hrest c hc).1]), hcomplete]
  rfl

/-- Letters are added to a word. -/
theorem tokens?_word_append (letters more : List Char) (h : ∀ c ∈ more, c.isAlpha = true) :
    tokens? (.word letters) (more ++ rest) = tokens? (.word (more.reverse ++ letters)) rest := by
  induction more generalizing letters with
  | nil => rfl
  | cons c more ih =>
    obtain ⟨hc, hmore⟩ := List.forall_mem_cons.mp h
    have hstep : Scan.step (.word letters) c = some (.word (c :: letters), []) := by
      rw [Scan.step, if_pos hc]
    rw [List.cons_append, tokens?_cons_of_silent hstep, ih _ hmore, List.reverse_cons,
      List.append_assoc, List.singleton_append]

/-- A written word is cut into one token. -/
theorem tokens?_word {first : Char} {letters : List Char} {token : Token}
    (hbegin : scanBetween first = some (.word [first], []))
    (hletters : ∀ c ∈ letters, c.isAlpha = true)
    (hcomplete : Scan.complete (.word (letters.reverse ++ [first])) = some [token])
    (hrest : Delimited rest) :
    tokens? .between (first :: letters ++ rest) = (tokens? .between rest).map (token :: ·) := by
  have hstep : Scan.step .between first = some (.word [first], []) := hbegin
  rw [List.cons_append, tokens?_cons_of_silent hstep, tokens?_word_append _ _ hletters]
  refine tokens?_of_complete hcomplete fun c hc => ?_
  rw [Scan.step, if_neg (by simp [(hrest c hc).2]), hcomplete]
  rfl

end

end DarkGravity.Json
