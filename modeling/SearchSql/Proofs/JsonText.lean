/-
SearchSql.Proofs.JsonText — values read back from their JSON text.

The text of a value does not name its kind. Null is a word, a text stands between
quotation marks, and everything else is a number, which is an integer where it has
neither a point nor a power of ten and fits into sixty-four bits. So the kind is read off
the text, and what is written for null, for an integer or for a text is read as the same
value.

* `Json.readString_escapeChars` — a written string is read up to its closing mark.
* `Json.readNumber_intChars` — a written integer is read to its end.
* `Json.value_round_trip` — values but doubles are read back, so their texts differ where
  they do.
-/
import Mathlib.Data.List.TakeWhile
import SearchSql.Json.Reader
import SearchSql.Json.Text
import SearchSql.Proofs.NumeralChars

namespace SearchSql.Json

open SearchSql.Number SearchSql.Text

/-! ## 1. Strings -/

/-- A string with one more character in front, and what follows the string. -/
def prepend (c : Char) (read : List Char × List Char) : List Char × List Char :=
  (c :: read.1, read.2)

/-- An escape of one letter. -/
theorem readString_letter {letter c : Char} (h : letterEscape? letter = some c)
    (rest : List Char) :
    readString ('\\' :: letter :: rest) = (readString rest).map (prepend c) := by
  have hletter : letter ≠ 'u' := by
    rintro rfl
    cases h
  rw [readString]
  · rw [h]
    cases readString rest <;> rfl
  · intro _ _ _ _ _ hu
    exact absurd hu hletter

/-- An escape of four hexadecimal digits. -/
theorem readString_quad {a b c d : Char} {n : Nat} (h : hexQuad? a b c d = some n)
    (hn : isSurrogate n = false) (rest : List Char) :
    readString ('\\' :: 'u' :: a :: b :: c :: d :: rest)
      = (readString rest).map (prepend (Char.ofNat n)) := by
  rw [readString, h]
  simp only [Option.bind_eq_bind, Option.bind_some, hn, Bool.false_eq_true, if_false]
  cases readString rest <;> rfl

/-- A character that stands for itself. -/
theorem readString_plain {c : Char} (hquote : c ≠ '"') (hback : c ≠ '\\') (hspace : 0x20 ≤ c.toNat)
    (rest : List Char) : readString (c :: rest) = (readString rest).map (prepend c) := by
  rw [readString]
  · have hshown : (decide (c.toNat < 0x20) || c == '\\') = false := by
      simp [hback, hspace]
    rw [hshown]
    cases readString rest <;> rfl
  all_goals
    intros
    simp_all

theorem hexDigit?_digitChar {n : Nat} (h : n < 16) : hexDigit? (Nat.digitChar n) = some n := by
  have hall : ∀ n : Fin 16, hexDigit? (Nat.digitChar n) = some n.val := by decide
  exact hall ⟨n, h⟩

theorem hexQuad?_hexPair {n : Nat} (h : n < 0x20) :
    hexQuad? '0' '0' (Nat.digitChar (n / 16)) (Nat.digitChar (n % 16)) = some n := by
  have hzero : hexDigit? '0' = some 0 := rfl
  simp only [hexQuad?, hzero, hexDigit?_digitChar (show n / 16 < 16 by omega),
    hexDigit?_digitChar (show n % 16 < 16 by omega), Option.bind_eq_bind, Option.bind_some,
    Option.pure_def, Option.some.injEq]
  omega

/-- One written character is read as it was. -/
theorem readString_escapeChar (c : Char) (rest : List Char) :
    readString (escapeChar c ++ rest) = (readString rest).map (prepend c) := by
  unfold escapeChar
  -- Seven characters have a letter of their own.
  iterate 7
    split
    · next h =>
      subst h
      exact readString_letter rfl rest
  split
  · next h =>
    have hsurrogate : isSurrogate c.toNat = false := by
      simp only [isSurrogate, Bool.and_eq_false_iff, decide_eq_false_iff_not]
      omega
    have hread := readString_quad (hexQuad?_hexPair h) hsurrogate rest
    rwa [Char.ofNat_toNat] at hread
  · next hquote hback _ _ _ _ _ hspace =>
    exact readString_plain hquote hback (by omega) rest

/-- A written string is read up to its closing mark, whatever follows it. -/
theorem readString_escapeChars (cs rest : List Char) :
    readString (cs.flatMap escapeChar ++ '"' :: rest) = some (cs, rest) := by
  induction cs with
  | nil => rfl
  | cons c cs ih =>
    rw [List.flatMap_cons, List.append_assoc, readString_escapeChar, ih]
    rfl

/-! ## 2. Integers -/

/-- The value of digits behind others grows with each of them. -/
theorem le_ofDigitChars (cs : List Char) (start : Nat) : start ≤ Nat.ofDigitChars 10 cs start := by
  induction cs generalizing start with
  | nil => exact Nat.le_refl start
  | cons c cs ih =>
    rw [Nat.ofDigitChars_cons]
    exact Nat.le_trans (by omega) (ih _)

/-- Digits are all taken as long as their value fits. -/
theorem takeSignificand_digits {cs : List Char} (hdigits : ∀ c ∈ cs, isDigit c = true)
    {start : Nat} (h : Nat.ofDigitChars 10 cs start ≤ maxSignificand) (count : Nat) :
    takeSignificand start count cs = (Nat.ofDigitChars 10 cs start, count + cs.length, []) := by
  induction cs generalizing start count with
  | nil => rfl
  | cons c cs ih =>
    rw [Nat.ofDigitChars_cons] at h
    have hnext : 10 * start + (c.toNat - '0'.toNat) ≤ maxSignificand :=
      Nat.le_trans (le_ofDigitChars cs _) h
    have hrest := ih (fun d hd => hdigits d (List.mem_cons_of_mem c hd)) h (count + 1)
    simp only [takeSignificand, hdigits c List.mem_cons_self, hnext, decide_true, Bool.and_self,
      if_true, hrest, Nat.ofDigitChars_cons, List.length_cons, Nat.add_assoc, Nat.add_comm 1]

/-- Only zero is written with a zero in front. -/
theorem head?_natChars_ne {n : Nat} (h : n ≠ 0) : (natChars n).head? ≠ some '0' := by
  induction n using Nat.strongRecOn with
  | ind n ih =>
    unfold natChars
    rw [Nat.toDigits_eq_if (by decide)]
    split
    · intro hzero
      exact h (Nat.digitChar_eq_zero.1 (Option.some.inj hzero))
    · next hn =>
      have hhead := ih (n / 10) (by omega) (by omega)
      obtain ⟨c, cs, hcs, -⟩ := exists_head_natChars (n / 10)
      rw [natChars] at hcs hhead
      rw [hcs] at hhead ⊢
      exact hhead

/-- The digits of a number are read to their end. -/
theorem readMagnitude_natChars (negative : Bool) {n : Nat} (h : n ≤ maxSignificand) :
    readMagnitude negative (natChars n) = some (ofSignificand negative n, []) := by
  have hdigits : ∀ c ∈ natChars n, isDigit c = true := fun c hc => isDigit_of_mem_natChars hc
  have hfits : Nat.ofDigitChars 10 (natChars n) 0 ≤ maxSignificand := by
    rwa [ofDigitChars_natChars]
  have htake := takeSignificand_digits hdigits hfits 0
  have hfirst : ((natChars n).isEmpty ||
      ((natChars n).length != 1 && (natChars n).head? == some '0')) = false := by
    by_cases hn : n = 0
    · subst hn
      rfl
    · simp [isEmpty_natChars, head?_natChars_ne hn]
  unfold readMagnitude
  simp only [List.takeWhile_eq_self_iff.2 hdigits, hfirst, htake, ofDigitChars_natChars,
    Bool.false_eq_true, if_false, List.takeWhile_nil, List.dropWhile_nil, List.length_nil, if_true]

/-- The kind of an integer is read off its size. -/
theorem ofSignificand_natAbs (n : Int64) :
    ofSignificand (decide (n.toInt < 0)) n.toInt.natAbs = .int n := by
  have hlow := n.le_toInt
  have hhigh := n.toInt_lt
  have hround := n.ofInt_toInt
  have hbound : Nat.pow 2 63 = 9223372036854775808 := rfl
  unfold ofSignificand
  rw [hbound]
  by_cases hn : n.toInt < 0
  · have hfits : ¬(n.toInt.natAbs = 0 ∨ 9223372036854775808 < n.toInt.natAbs) := by omega
    have hneg : -(n.toInt.natAbs : Int) = n.toInt := by omega
    simp only [hn, decide_true, if_true, if_neg hfits, hneg, hround]
  · have hfits : n.toInt.natAbs < 9223372036854775808 := by omega
    have hpos : (n.toInt.natAbs : Int) = n.toInt := by omega
    simp only [hn, decide_false, Bool.false_eq_true, if_false, if_pos hfits, hpos, hround]

/-- A written integer is read to its end. -/
theorem readNumber_intChars (n : Int64) :
    readNumber (intChars n.toInt) = some (.int n, []) := by
  have hlow := n.le_toInt
  have hhigh := n.toInt_lt
  have hmax : maxSignificand = 18446744073709551615 := rfl
  have hread := readMagnitude_natChars (decide (n.toInt < 0))
    (n := n.toInt.natAbs) (by rw [hmax]; omega)
  rw [ofSignificand_natAbs] at hread
  unfold intChars
  split
  · next hn =>
    rw [readNumber]
    rwa [decide_eq_true hn] at hread
  · next hn =>
    rw [decide_eq_false hn] at hread
    obtain ⟨c, rest, hcs, hc⟩ := exists_head_natChars n.toInt.natAbs
    have hminus : c ≠ '-' := by
      rintro rfl
      exact absurd hc (by decide)
    rw [hcs] at hread ⊢
    rw [readNumber]
    · exact hread
    · intro _ h
      exact absurd (List.cons.inj h).1 hminus

/-- A written integer begins with a minus sign or a digit. -/
theorem exists_head_intChars (n : Int) :
    ∃ c rest, intChars n = c :: rest ∧ isNumeralChar c = true := by
  unfold intChars
  split
  · exact ⟨'-', _, rfl, by decide⟩
  · obtain ⟨c, rest, hcs, hc⟩ := exists_head_natChars n.natAbs
    exact ⟨c, rest, hcs, by simp [isNumeralChar, hc]⟩

/-! ## 3. Values -/

/-- Text that begins neither like the word for null nor like a string is a number. -/
theorem readValue_of_isNumeralChar {c : Char} (h : isNumeralChar c = true) (rest : List Char) :
    readValue (c :: rest) = readNumber (c :: rest) := by
  unfold readValue
  split
  · next heq =>
    rw [(List.cons.inj heq).1] at h
    exact absurd h (by decide)
  · next heq =>
    rw [(List.cons.inj heq).1] at h
    exact absurd h (by decide)
  · rfl

/-- A written value but a double is read to its end, and no white space is in front of
it. -/
theorem readValue_value {v : Value} (h : ∀ x, v ≠ .float x) :
    (value v).toList.dropWhile isSpace = (value v).toList ∧
      readValue (value v).toList = some (v, []) := by
  cases v with
  | null => exact ⟨rfl, rfl⟩
  | float x => exact absurd rfl (h x)
  | int n =>
    obtain ⟨c, rest, hcs, hc⟩ := exists_head_intChars n.toInt
    have hspace : isSpace c = false := by
      rw [Bool.eq_false_iff]
      intro hs
      simp only [isSpace, decide_eq_true_eq, List.mem_cons, List.not_mem_nil, or_false] at hs
      rcases hs with rfl | rfl | rfl | rfl <;> exact absurd hc (by decide)
    have htext : (value (.int n)).toList = c :: rest := by
      rw [value, intText, String.toList_ofList, hcs]
    rw [htext, readValue_of_isNumeralChar hc, ← hcs, readNumber_intChars, hcs]
    exact ⟨by simp [hspace], rfl⟩
  | text s =>
    have htext : (value (.text s)).toList = '"' :: (s.toList.flatMap escapeChar ++ ['"']) := by
      rw [value, string, String.toList_ofList]
    rw [htext, readValue, readString_escapeChars]
    refine ⟨rfl, ?_⟩
    show some (Value.text (String.ofList s.toList), []) = some (.text s, [])
    rw [String.ofList_toList]

/-- **Null, integers and texts are read back from their JSON text**, each as the same kind
of value with the same content. So two of them have the same text only if they are
equal. -/
theorem value_round_trip :
    (∀ v : Value, (∀ x, v ≠ .float x) → read? (value v) = some v) ∧
    ∀ v w : Value, (∀ x, v ≠ .float x) → (∀ x, w ≠ .float x) → value v = value w → v = w := by
  have hread : ∀ v : Value, (∀ x, v ≠ .float x) → read? (value v) = some v := by
    intro v hv
    obtain ⟨hstart, hvalue⟩ := readValue_value hv
    unfold read?
    rw [hstart, hvalue]
    rfl
  refine ⟨hread, fun v w hv hw h => ?_⟩
  have hsome : some v = some w := by rw [← hread v hv, ← hread w hw, h]
  exact Option.some.inj hsome

/-- The smallest integer, and a text that looks like it and has quotation marks, a
backslash, a control character and a character behind the basic plane. -/
theorem value_round_trip_of_lookalikes :
    let least : Value := .int Int64.minValue
    let digits : Value := .text "-9223372036854775808"
    let marks : Value := .text "null\"\\\x01/\n😀"
    value least = "-9223372036854775808" ∧ read? (value least) = some least ∧
      value digits = "\"-9223372036854775808\"" ∧ read? (value digits) = some digits ∧
      value marks = "\"null\\\"\\\\\\u0001/\\n😀\"" ∧ read? (value marks) = some marks ∧
      value least ≠ value digits := by
  intro least digits marks
  have hleast : ∀ x, least ≠ .float x := by simp [least]
  have hdigits : ∀ x, digits ≠ .float x := by simp [digits]
  have hmarks : ∀ x, marks ≠ .float x := by simp [marks]
  obtain ⟨hread, hinjective⟩ := value_round_trip
  refine ⟨by decide +kernel, hread least hleast, by decide +kernel, hread digits hdigits,
    by decide +kernel, hread marks hmarks, fun h => ?_⟩
  exact absurd (hinjective least digits hleast hdigits h) (by decide)

end SearchSql.Json
