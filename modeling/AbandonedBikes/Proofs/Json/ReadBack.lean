import Mathlib.Data.List.Basic
import Mathlib.Tactic.SplitIfs
import AbandonedBikes.Json.Reader
import AbandonedBikes.Json.Writer
import AbandonedBikes.Proofs.Spans
/-!
# JSON values are read back from their text

A written value has no blanks, and its first character says which kind of value it is. A text and a
number end where the reader looks for their end, whatever stands after them; so does an array or an
object, if its items or members do. `ReadsBack` says this of one value, and `Plain.readsBack` of all
values that nest as deeply as allowed, by induction on how they are made.

Doubles are left out. Their text is the shortest one that reads back, and that it is one is not shown
here.
-/

namespace AbandonedBikes.Json

variable {rest : List Char} {fuel levels : Nat}

theorem skipSpace_cons {c : Char} (visible : isSpace c = false) (cs : List Char) :
    skipSpace (c :: cs) = c :: cs := by
  simp [skipSpace, visible]

/-! ## Texts -/

theorem codeUnit?_append {cs left : List Char} {unit : Nat} (h : codeUnit? cs = some (unit, left))
    (rest : List Char) : codeUnit? (cs ++ rest) = some (unit, left ++ rest) := by
  match cs with
  | a :: b :: c :: d :: more =>
    simp only [codeUnit?, Option.bind_eq_bind, Option.bind_eq_some_iff] at h
    obtain ⟨a', ha, b', hb, c', hc, d', hd, same⟩ := h
    obtain ⟨rfl, rfl⟩ := Prod.mk.inj (Option.some.inj same)
    simp [codeUnit?, ha, hb, hc, hd]
  | [] | [_] | [_, _] | [_, _, _] => simp [codeUnit?] at h

theorem codeUnit?_control : ∀ n : Fin 32, codeUnit? (Text.hexDigits 4 n) = some (n.val, []) := by
  decide +kernel

theorem unicodeEscape?_control {c : Char} (control : c.toNat < 0x20) (rest : List Char) :
    unicodeEscape? (Text.hexDigits 4 c.toNat ++ rest) = some (c, rest) := by
  have unit := codeUnit?_append (codeUnit?_control ⟨c.toNat, control⟩) rest
  have no_surrogate : ¬ 0xd800 ≤ c.toNat ∧ ¬ 0xdc00 ≤ c.toNat := by omega
  simp [unicodeEscape?, unit, no_surrogate, Char.ofNat_toNat]

/-- A character is read back from the way it is written. -/
theorem readText_escapeChar (c : Char) (reversed : List Char) :
    readText (fuel + 1) reversed ((escapeChar c).toList ++ rest) =
      readText fuel (c :: reversed) rest := by
  unfold escapeChar
  split_ifs with quote backslash newline carriage tab control
  · subst quote
    rfl
  · subst backslash
    rfl
  · subst newline
    rfl
  · subst carriage
    rfl
  · subst tab
    rfl
  · rw [String.toList_append, String.toList_ofList]
    simp [readText, unicodeEscape?_control control]
  · simp [readText, quote, backslash, control]

/-- The characters of a text as they are written. -/
def escaped (cs : List Char) : List Char := cs.flatMap fun c => (escapeChar c).toList

theorem escapeChar_ne_nil (c : Char) : (escapeChar c).toList ≠ [] := by
  intro nothing
  have read := @readText_escapeChar ['"'] 0 c []
  rw [nothing] at read
  simp [readText] at read

theorem length_le_escaped (cs : List Char) : cs.length ≤ (escaped cs).length := by
  induction cs with
  | nil => exact Nat.zero_le _
  | cons c cs ih =>
    have written := List.length_pos_iff.mpr (escapeChar_ne_nil c)
    rw [escaped, List.flatMap_cons, List.length_append, List.length_cons]
    exact Nat.add_comm .. ▸ Nat.add_le_add written ih

theorem readText_escaped {cs : List Char} (enough : cs.length < fuel) (reversed : List Char) :
    readText fuel reversed (escaped cs ++ '"' :: rest) =
      some (String.ofList (reversed.reverse ++ cs), rest) := by
  induction cs generalizing fuel reversed with
  | nil =>
    obtain ⟨fuel, rfl⟩ := Nat.exists_eq_add_one_of_ne_zero (Nat.ne_of_gt enough)
    simp [escaped, readText]
  | cons c cs ih =>
    obtain ⟨fuel, rfl⟩ := Nat.exists_eq_add_one_of_ne_zero (Nat.ne_of_gt (Nat.zero_lt_of_lt enough))
    have left : cs.length < fuel := Nat.lt_of_succ_lt_succ enough
    rw [escaped, List.flatMap_cons, List.append_assoc, readText_escapeChar, ← escaped, ih left,
      List.reverse_cons, List.append_assoc]
    rfl

theorem toList_writeText (text : String) :
    (writeText text).toList = '"' :: (escaped text.toList ++ ['"']) := by
  have written (cs : List Char) (before : String) :
      (cs.foldl (fun written c => written ++ escapeChar c) before).toList =
        before.toList ++ escaped cs := by
    induction cs generalizing before with
    | nil => simp [escaped]
    | cons c cs ih => simp [escaped, ih]
  rw [writeText, String.foldl_eq_foldl_toList]
  simp [written]

/-! ## Numbers -/

/-- What may stand after a number. -/
def EndsNumber (rest : List Char) : Prop :=
  ∀ c ∈ rest.head?, c.isDigit = false ∧ c ≠ '.' ∧ c ≠ 'e' ∧ c ≠ 'E'

theorem isDigit_of_mem_toDigits {n : Nat} {c : Char} (member : c ∈ Nat.toDigits 10 n) :
    c.isDigit = true :=
  Nat.isDigit_of_mem_toDigits (by decide) (by decide) member

theorem head?_toDigits_ne_zero {n : Nat} (positive : 0 < n) :
    (Nat.toDigits 10 n).head? ≠ some '0' := by
  induction n using Nat.strongRecOn with
  | ind n ih =>
    by_cases single : n < 10
    · rw [Nat.toDigits_of_lt_base single]
      have digits : ∀ n : Fin 10, 0 < n.val → [n.val.digitChar].head? ≠ some '0' := by decide
      exact digits ⟨n, single⟩ positive
    · have shorter := ih (n / 10) (by omega) (by omega)
      rw [Nat.toDigits_eq_if (by decide), if_neg single, List.head?_append]
      cases first : (Nat.toDigits 10 (n / 10)).head? with
      | none => exact absurd (List.head?_eq_none_iff.mp first) Nat.toDigits_ne_nil
      | some c => rwa [first] at shorter

theorem readFraction?_none (ends : EndsNumber rest) : readFraction? rest = some ([], rest) := by
  cases rest with
  | nil => rfl
  | cons c cs => simp [readFraction?, (ends c rfl).2.1]

theorem readExponent?_none (ends : EndsNumber rest) : readExponent? rest = some (none, rest) := by
  cases rest with
  | nil => rfl
  | cons c cs => simp [readExponent?, (ends c rfl).2.2.1, (ends c rfl).2.2.2]

theorem digitsValue_toDigits (n : Nat) : digitsValue (Nat.toDigits 10 n) = n := by
  have value := @Nat.ofDigitChars_toDigits 10 n (by decide) (by decide)
  simpa only [digitsValue, Nat.ofDigitChars_eq_foldl, Nat.mul_comm] using value

/-- An integer is read back after its sign, if it fits. -/
theorem readNumber?_toDigits {negative : Bool} {n : Nat} {value : Int} (ends : EndsNumber rest)
    (fits : ofInteger negative n = .int value) :
    readNumber? negative (Nat.toDigits 10 n ++ rest) = some (.int value, rest) := by
  have stop : ∀ c ∈ rest.head?, c.isDigit = false := fun c first => (ends c first).1
  have whole : (Nat.toDigits 10 n ++ rest).takeWhile Char.isDigit = Nat.toDigits 10 n :=
    takeWhile_span (fun _ => isDigit_of_mem_toDigits) stop
  have after : (Nat.toDigits 10 n ++ rest).dropWhile Char.isDigit = rest :=
    dropWhile_span (fun _ => isDigit_of_mem_toDigits) stop
  have no_padding : (Nat.toDigits 10 n).length = 1 ∨ (Nat.toDigits 10 n).head? ≠ some '0' := by
    rcases Nat.eq_zero_or_pos n with rfl | positive
    · exact .inl rfl
    · exact .inr (head?_toDigits_ne_zero positive)
  unfold readNumber?
  dsimp only
  rw [whole, after, guard, if_pos ⟨Nat.toDigits_ne_nil, no_padding⟩]
  simp [readFraction?_none ends, readExponent?_none ends, digitsValue_toDigits, fits]

/-! ## Values -/

/-- What a value starts with is no blank and does not close an array. -/
def Opens (cs : List Char) : Prop := ∃ c more, cs = c :: more ∧ isSpace c = false ∧ c ≠ ']'

theorem Opens.append {cs : List Char} (opens : Opens cs) (rest : List Char) : Opens (cs ++ rest) := by
  obtain ⟨c, more, rfl, visible, no_close⟩ := opens
  exact ⟨c, more ++ rest, rfl, visible, no_close⟩

/-- The text of a value is read as the value, whatever stands after it. -/
structure ReadsBack (levels : Nat) (value : Json) : Prop where
  opens : Opens (write value).toList
  reads : ∀ ⦃fuel : Nat⦄ ⦃rest : List Char⦄, EndsNumber rest → (write value).toList.length ≤ fuel →
    readValue fuel levels ((write value).toList ++ rest) = some (value, rest)

/-- A value is read back if it is after its first character, which takes one unit of fuel. -/
theorem ReadsBack.of_written {value : Json} {c : Char} {cs : List Char}
    (written : (write value).toList = c :: cs) (visible : isSpace c = false) (no_close : c ≠ ']')
    (reads : ∀ ⦃fuel : Nat⦄ ⦃rest : List Char⦄, EndsNumber rest → cs.length ≤ fuel →
      readValue (fuel + 1) levels (c :: (cs ++ rest)) = some (value, rest)) :
    ReadsBack levels value := by
  refine ⟨⟨c, cs, written, visible, no_close⟩, fun fuel rest ends enough => ?_⟩
  rw [written] at enough ⊢
  cases fuel with
  | zero => exact absurd enough (Nat.not_succ_le_zero _)
  | succ fuel => exact reads ends (Nat.le_of_succ_le_succ enough)

theorem readsBack_null : ReadsBack levels .null := by
  have written : (write .null).toList = ['n', 'u', 'l', 'l'] := rfl
  exact .of_written written rfl (by decide) fun _ _ _ _ => rfl

theorem readsBack_bool (b : Bool) : ReadsBack levels (.bool b) := by
  cases b with
  | false =>
    have written : (write (.bool false)).toList = ['f', 'a', 'l', 's', 'e'] := rfl
    exact .of_written written rfl (by decide) fun _ _ _ _ => rfl
  | true =>
    have written : (write (.bool true)).toList = ['t', 'r', 'u', 'e'] := rfl
    exact .of_written written rfl (by decide) fun _ _ _ _ => rfl

theorem readValue_quote (cs : List Char) : readValue (fuel + 1) levels ('"' :: cs) =
    (readText fuel [] cs).map fun (written, rest) => (.text written, rest) := rfl

theorem readsBack_text (s : String) : ReadsBack levels (.text s) := by
  refine .of_written (toList_writeText s) rfl (by decide) fun fuel rest _ enough => ?_
  have chars : s.toList.length < fuel := by
    have := length_le_escaped s.toList
    simp only [List.length_append, List.length_singleton] at enough
    omega
  rw [List.append_assoc, List.singleton_append, readValue_quote, readText_escaped chars]
  simp

theorem isDigit_cases {c : Char} (digit : c.isDigit = true) :
    isSpace c = false ∧ c ≠ '"' ∧ c ≠ '[' ∧ c ≠ '\x7b' ∧ c ≠ '-' ∧ c ≠ ']' := by
  have different {mark : Char} (other : mark.isDigit = false) : c ≠ mark := by
    rintro rfl
    exact absurd digit (Bool.not_eq_true _ ▸ other)
  have visible : isSpace c = false := by
    simp [isSpace, @different ' ' rfl, @different '\t' rfl, @different '\n' rfl, @different '\r' rfl]
  exact ⟨visible, different rfl, different rfl, different rfl, different rfl, different rfl⟩

theorem readValue_digit {c : Char} {cs : List Char} (digit : c.isDigit = true) :
    readValue (fuel + 1) levels (c :: cs) = readNumber? false (c :: cs) := by
  obtain ⟨visible, quote, bracket, brace, minus, _⟩ := isDigit_cases digit
  unfold readValue
  rw [skipSpace_cons visible]
  -- a digit is none of the marks, so one case is left
  split
  all_goals simp_all

theorem ofInteger_natural {n : Nat} (fits : n < 18446744073709551616) :
    ofInteger false n = .int n := if_pos fits

theorem ofInteger_negative {n : Nat} (fits : n < 9223372036854775808) :
    ofInteger true (n + 1) = .int (Int.negSucc n) := by
  have small : ¬ (n + 1 = 0 ∨ 9223372036854775808 < n + 1) := by omega
  exact if_neg small

theorem readsBack_int {n : Int} (least : -9223372036854775808 ≤ n)
    (greatest : n ≤ 18446744073709551615) : ReadsBack levels (.int n) := by
  cases n with
  | ofNat n =>
    have written : (write (.int (Int.ofNat n))).toList = Nat.toDigits 10 n := Nat.toList_repr
    have fits : n < 18446744073709551616 := by
      rw [Int.ofNat_eq_natCast] at greatest
      omega
    obtain ⟨c, cs, first⟩ := List.exists_cons_of_ne_nil (Nat.toDigits_ne_nil (b := 10) (n := n))
    have digit : c.isDigit = true := isDigit_of_mem_toDigits (first ▸ List.mem_cons_self)
    obtain ⟨visible, _, _, _, _, no_close⟩ := isDigit_cases digit
    refine .of_written (written.trans first) visible no_close fun fuel rest ends _ => ?_
    rw [readValue_digit digit, ← List.cons_append, ← first]
    exact readNumber?_toDigits ends (ofInteger_natural fits)
  | negSucc n =>
    have written : (write (.int (Int.negSucc n))).toList = '-' :: Nat.toDigits 10 (n + 1) := by
      rw [← Nat.toList_repr]
      exact String.toList_append
    have fits : n < 9223372036854775808 := by omega
    exact .of_written written rfl (by decide) fun _ _ ends _ =>
      readNumber?_toDigits ends (ofInteger_negative fits)

/-! ## Arrays -/

theorem endsNumber_cons {c : Char} (mark : c = ',' ∨ c = ']' ∨ c = '\x7d') :
    EndsNumber (c :: rest) := by
  intro first same
  obtain rfl := Option.some.inj same
  rcases mark with rfl | rfl | rfl <;> decide

section Items

variable {item : Json} {items reversed : List Json} {cs more : List Char}

theorem readItems_comma (h : readValue fuel levels cs = some (item, ',' :: more)) :
    readItems (fuel + 1) levels reversed cs = readItems fuel levels (item :: reversed) more := by
  rw [readItems, h]
  rfl

theorem readItems_close (h : readValue fuel levels cs = some (item, ']' :: more)) :
    readItems (fuel + 1) levels reversed cs = some (.array (item :: reversed).reverse, more) := by
  rw [readItems, h]
  rfl

theorem toList_writeItems_cons (item next : Json) (items : List Json) :
    (writeItems (item :: next :: items)).toList =
      (write item).toList ++ ',' :: (writeItems (next :: items)).toList := by
  simp [writeItems]

theorem opens_writeItems (reads : ReadsBack levels item) (items : List Json) :
    Opens (writeItems (item :: items)).toList := by
  cases items with
  | nil => exact reads.opens
  | cons next items => exact toList_writeItems_cons item next items ▸ reads.opens.append _

/-- Items are read up to the bracket after them. -/
theorem readItems_written (each : ∀ item ∈ items, ReadsBack levels item) (some_item : items ≠ [])
    (reversed : List Json) (enough : (writeItems items).toList.length < fuel) :
    readItems fuel levels reversed ((writeItems items).toList ++ ']' :: rest) =
      some (.array (reversed.reverse ++ items), rest) := by
  induction items generalizing fuel reversed with
  | nil => exact absurd rfl some_item
  | cons item items ih =>
    obtain ⟨fuel, rfl⟩ := Nat.exists_eq_add_one_of_ne_zero (Nat.ne_of_gt (Nat.zero_lt_of_lt enough))
    obtain ⟨back, others⟩ := List.forall_mem_cons.mp each
    -- no comma is written after the last item
    cases items with
    | nil =>
      rw [writeItems] at enough ⊢
      rw [readItems_close (back.reads (endsNumber_cons (.inr (.inl rfl))) (Nat.le_of_lt_succ enough)),
        List.reverse_cons]
    | cons next items =>
      rw [toList_writeItems_cons, List.length_append, List.length_cons] at enough
      rw [toList_writeItems_cons, List.append_assoc, List.cons_append,
        readItems_comma (back.reads (endsNumber_cons (.inl rfl)) (by omega)),
        ih others (List.cons_ne_nil _ _) (item :: reversed) (by omega), List.reverse_cons,
        List.append_assoc, List.singleton_append]

theorem readValue_items (opens : Opens cs) :
    readValue (fuel + 1) (levels + 1) ('[' :: cs) = readItems fuel levels [] cs := by
  obtain ⟨c, more, rfl, visible, no_close⟩ := opens
  have bracket : skipSpace ('[' :: c :: more) = '[' :: c :: more := rfl
  unfold readValue
  simp only [bracket, skipSpace_cons visible]
  split
  next closes => exact absurd (List.cons.inj closes).1 no_close
  next => rfl

theorem readsBack_array (each : ∀ item ∈ items, ReadsBack levels item) :
    ReadsBack (levels + 1) (.array items) := by
  have written : (write (.array items)).toList = '[' :: ((writeItems items).toList ++ [']']) := by
    simp [write]
  refine .of_written written rfl (by decide) fun fuel rest _ enough => ?_
  rw [List.append_assoc, List.singleton_append]
  cases items with
  | nil => rfl
  | cons item items =>
    have opens := opens_writeItems (each item List.mem_cons_self) items
    rw [List.length_append, List.length_singleton] at enough
    rw [readValue_items (opens.append _), readItems_written each (List.cons_ne_nil _ _) [] enough]
    rfl

end Items

/-! ## Objects -/

section Members

variable {name : String} {value : Json} {members before : List (String × Json)}
  {cs more left : List Char}

theorem setMember_of_new (new : ∀ member ∈ members, member.1 ≠ name) :
    setMember name value members = members ++ [(name, value)] := by
  induction members with
  | nil => rfl
  | cons member members ih =>
    obtain ⟨other, others⟩ := List.forall_mem_cons.mp new
    rw [setMember, if_neg other, ih others, List.cons_append]

theorem readMembers_comma (named : readText fuel [] cs = some (name, ':' :: more))
    (read : readValue fuel levels more = some (value, ',' :: left)) :
    readMembers (fuel + 1) levels members ('"' :: cs) =
      readMembers fuel levels (setMember name value members) left := by
  rw [readMembers, skipSpace_cons rfl]
  simp only [named, @skipSpace_cons ':' rfl, read, @skipSpace_cons ',' rfl]

theorem readMembers_close (named : readText fuel [] cs = some (name, ':' :: more))
    (read : readValue fuel levels more = some (value, '\x7d' :: left)) :
    readMembers (fuel + 1) levels members ('"' :: cs) =
      some (.object (setMember name value members), left) := by
  rw [readMembers, skipSpace_cons rfl]
  simp only [named, @skipSpace_cons ':' rfl, read, @skipSpace_cons '\x7d' rfl]

theorem toList_writeMembers_single (name : String) (value : Json) :
    (writeMembers [(name, value)]).toList =
      '"' :: (escaped name.toList ++ '"' :: ':' :: (write value).toList) := by
  simp [writeMembers, toList_writeText]

theorem toList_writeMembers_cons (name : String) (value : Json) (next : String × Json)
    (members : List (String × Json)) :
    (writeMembers ((name, value) :: next :: members)).toList =
      '"' :: (escaped name.toList ++
        '"' :: ':' :: ((write value).toList ++ ',' :: (writeMembers (next :: members)).toList)) := by
  simp [writeMembers, toList_writeText]

theorem exists_writeMembers (member : String × Json) (members : List (String × Json)) :
    ∃ cs, (writeMembers (member :: members)).toList = '"' :: cs := by
  obtain ⟨name, value⟩ := member
  cases members with
  | nil => exact ⟨_, toList_writeMembers_single name value⟩
  | cons next members => exact ⟨_, toList_writeMembers_cons name value next members⟩

/-- Members are read up to the brace after them. -/
theorem readMembers_written (names : ((before ++ members).map Prod.fst).Nodup)
    (each : ∀ member ∈ members, ReadsBack levels member.2) (some_member : members ≠ [])
    (enough : (writeMembers members).toList.length < fuel) :
    readMembers fuel levels before ((writeMembers members).toList ++ '\x7d' :: rest) =
      some (.object (before ++ members), rest) := by
  induction members generalizing fuel before with
  | nil => exact absurd rfl some_member
  | cons member members ih =>
    obtain ⟨name, value⟩ := member
    obtain ⟨fuel, rfl⟩ := Nat.exists_eq_add_one_of_ne_zero (Nat.ne_of_gt (Nat.zero_lt_of_lt enough))
    obtain ⟨(back : ReadsBack levels value), others⟩ := List.forall_mem_cons.mp each
    have new : ∀ member ∈ before, member.1 ≠ name := by
      intro member earlier
      rw [List.map_append] at names
      exact (List.nodup_append.mp names).2.2 _ (List.mem_map_of_mem earlier) _ List.mem_cons_self
    have named (short : (escaped name.toList).length < fuel) (more : List Char) :
        readText fuel [] (escaped name.toList ++ '"' :: ':' :: more) = some (name, ':' :: more) := by
      have chars := length_le_escaped name.toList
      rw [readText_escaped (by omega)]
      simp
    cases members with
    | nil =>
      rw [toList_writeMembers_single] at enough ⊢
      simp only [List.length_cons, List.length_append] at enough
      simp only [List.cons_append, List.append_assoc]
      rw [readMembers_close (named (by omega) _)
        (back.reads (endsNumber_cons (.inr (.inr rfl))) (by omega)), setMember_of_new new]
    | cons next members =>
      rw [toList_writeMembers_cons] at enough ⊢
      simp only [List.length_cons, List.length_append] at enough
      simp only [List.cons_append, List.append_assoc]
      rw [readMembers_comma (named (by omega) _)
        (back.reads (endsNumber_cons (.inl rfl)) (by omega)), setMember_of_new new,
        ih (by simpa using names) others (List.cons_ne_nil _ _) (by omega), List.append_assoc]
      rfl

theorem readValue_members (cs : List Char) :
    readValue (fuel + 1) (levels + 1) ('\x7b' :: '"' :: cs) =
      readMembers fuel levels [] ('"' :: cs) := rfl

theorem readsBack_object (names : (members.map Prod.fst).Nodup)
    (each : ∀ member ∈ members, ReadsBack levels member.2) :
    ReadsBack (levels + 1) (.object members) := by
  have written : (write (.object members)).toList =
      '\x7b' :: ((writeMembers members).toList ++ ['\x7d']) := by
    simp [write]
  refine .of_written written rfl (by decide) fun fuel rest _ enough => ?_
  rw [List.append_assoc, List.singleton_append]
  cases members with
  | nil => rfl
  | cons member members =>
    rw [List.length_append, List.length_singleton] at enough
    have inside : readMembers fuel levels []
        ((writeMembers (member :: members)).toList ++ '\x7d' :: rest) =
          some (.object ([] ++ member :: members), rest) :=
      readMembers_written names each (List.cons_ne_nil _ _) enough
    obtain ⟨cs, quoted⟩ := exists_writeMembers member members
    rw [quoted, List.cons_append] at inside ⊢
    exact (readValue_members _).trans inside

end Members

/-! ## All values -/

/-- Values without doubles whose integers have at most 64 bits, whose members have different names and
which nest no deeper than the given number of levels. -/
inductive Plain : Nat → Json → Prop
  | null {levels : Nat} : Plain levels .null
  | bool {levels : Nat} (b : Bool) : Plain levels (.bool b)
  | int {levels : Nat} {n : Int} (least : -9223372036854775808 ≤ n)
      (greatest : n ≤ 18446744073709551615) : Plain levels (.int n)
  | text {levels : Nat} (s : String) : Plain levels (.text s)
  | array {levels : Nat} {items : List Json} (each : ∀ item ∈ items, Plain levels item) :
      Plain (levels + 1) (.array items)
  | object {levels : Nat} {members : List (String × Json)}
      (names : (members.map Prod.fst).Nodup)
      (each : ∀ member ∈ members, Plain levels member.2) : Plain (levels + 1) (.object members)

/-- By induction on how the value is made: what holds of its items and members holds of itself. -/
theorem Plain.readsBack {value : Json} (plain : Plain levels value) : ReadsBack levels value := by
  induction plain with
  | null => exact readsBack_null
  | bool b => exact readsBack_bool b
  | int least greatest => exact readsBack_int least greatest
  | text s => exact readsBack_text s
  | array _ each => exact readsBack_array each
  | object names _ each => exact readsBack_object names each

/-- What is written is read, up to the nesting that the reader bears. -/
theorem ofText?_write {value : Json} (plain : Plain nestingLimit value) :
    ofText? (write value) = some value := by
  have ends : EndsNumber [] := fun c first => by cases first
  have read := plain.readsBack.reads ends (Nat.le_add_right _ 2)
  rw [List.append_nil] at read
  rw [ofText?]
  simp only [read]
  rfl

end AbandonedBikes.Json
