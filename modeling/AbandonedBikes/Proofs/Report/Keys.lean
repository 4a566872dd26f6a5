import AbandonedBikes.Report.Reporter
/-!
# Keys of reporters

A key is accepted if and only if something follows one of the two marks. The number of a user and the
digest of a device are never empty, so the key of every reporter that was built in one of the three
ways is accepted again, and gives the same reporter.
-/

namespace AbandonedBikes.Reporter

/-- A mark and something after it. -/
def IsKey (key : String) : Prop :=
  ∃ body, body ≠ "" ∧ (key = userMark ++ body ∨ key = anonymousMark ++ body)

/-- The reporter is a user or a device, or comes from a key that was accepted. -/
inductive Built : Reporter → Prop
  | user (id : Int) : Built (user id)
  | anonymous (deviceToken secret : String) : Built (anonymous deviceToken secret)
  | accepted {key : String} {reporter : Reporter} (read : ofKey key = .ok reporter) : Built reporter

theorem afterMark?_eq_some_iff {mark key : String} {body : List Char} :
    afterMark? mark key = some body ↔ key = mark ++ String.ofList body := by
  have as_lists : key = mark ++ String.ofList body ↔ key.toList = mark.toList ++ body := by
    rw [← String.toList_inj, String.toList_append, String.toList_ofList]
  rw [as_lists, afterMark?, ← String.length_toList]
  constructor
  · intro found
    split at found
    next marked =>
      obtain ⟨rest, same⟩ := List.isPrefixOf_iff_prefix.mp marked
      rw [← same, List.drop_left] at found
      rw [← same, Option.some.inj found]
    next => cases found
  · intro same
    rw [same, if_pos (List.isPrefixOf_iff_prefix.mpr (List.prefix_append _ _)), List.drop_left]

@[simp] theorem afterMark?_append (mark body : String) :
    afterMark? mark (mark ++ body) = some body.toList :=
  afterMark?_eq_some_iff.mpr (by rw [String.ofList_toList])

/-- The two marks begin differently, so no key has both. -/
theorem afterMark?_user_of_anonymous (body : String) :
    afterMark? userMark (anonymousMark ++ body) = none := by
  refine Option.eq_none_iff_forall_ne_some.mpr fun other marked => ?_
  have first := congrArg (fun text => text.toList.head?) (afterMark?_eq_some_iff.mp marked)
  simp [String.toList_append, userMark, anonymousMark] at first

theorem ofKey_of_isKey {key : String} (h : IsKey key) : ofKey key = .ok ⟨key⟩ := by
  obtain ⟨body, filled, marked⟩ := h
  have found : (afterMark? userMark key).or (afterMark? anonymousMark key) = some body.toList := by
    rcases marked with rfl | rfl
    · simp
    · simp [afterMark?_user_of_anonymous]
  obtain ⟨c, rest, chars⟩ : ∃ c rest, body.toList = c :: rest :=
    List.exists_cons_of_ne_nil (mt String.toList_eq_nil_iff.mp filled)
  rw [ofKey, found, chars]

theorem ofKey_of_not_isKey {key : String} (h : ¬ IsKey key) : ofKey key = .error ⟨.reporter, key⟩ := by
  rw [ofKey]
  split
  next c rest found =>
    refine absurd ⟨String.ofList (c :: rest), by simp, ?_⟩ h
    exact (Option.or_eq_some_iff.mp found).imp afterMark?_eq_some_iff.mp
      fun other => afterMark?_eq_some_iff.mp other.2
  next => rfl

/-- What is accepted is a key, and the reporter has it. -/
theorem ofKey_eq_ok_iff {key : String} {reporter : Reporter} :
    ofKey key = .ok reporter ↔ IsKey key ∧ reporter = ⟨key⟩ := by
  by_cases h : IsKey key
  · rw [ofKey_of_isKey h]
    simp [h, eq_comm]
  · rw [ofKey_of_not_isKey h]
    simp [h]

theorem toString_ne_empty (n : Int) : toString n ≠ "" := by
  cases n with
  | ofNat n => exact Nat.repr_ne_empty
  | negSucc n => simp [Int.toString_eq_repr, Int.repr]

theorem hexBytes_ne_empty {bytes : List UInt8} (filled : bytes ≠ []) : Text.hexBytes bytes ≠ "" := by
  obtain ⟨byte, rest, rfl⟩ := List.exists_cons_of_ne_nil filled
  simp [Text.hexBytes, Text.hexDigits]

/-- What is built has a key. -/
theorem Built.isKey {reporter : Reporter} (built : reporter.Built) : IsKey reporter.key := by
  cases built with
  | user id => exact ⟨_, toString_ne_empty id, .inl rfl⟩
  | anonymous deviceToken secret =>
    exact ⟨_, hexBytes_ne_empty (List.cons_ne_nil _ _), .inr rfl⟩
  | accepted read =>
    obtain ⟨key, rfl⟩ := ofKey_eq_ok_iff.mp read
    exact key

/-- The key of what is built gives it back. -/
theorem Built.ofKey_key {reporter : Reporter} (built : reporter.Built) :
    ofKey reporter.key = .ok reporter := ofKey_of_isKey built.isKey

end AbandonedBikes.Reporter
