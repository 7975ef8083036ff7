import ConnectionUri.Proofs.Text.Decimal
import ConnectionUri.Value.LongInteger

/-!
# Long integers of a value

A value has a long integer that is met first exactly when it holds a long integer at all, and then no
other one that it holds is less deep (`exists_longInteger?_of_holdsLong`).
-/

set_option autoImplicit false

namespace ConnectionUri

/-!
## The first of two
-/

namespace LongInteger

variable {earlier later : Option LongInteger}

theorem eq_or_eq_of_first? {long : LongInteger} (found : first? earlier later = some long) :
    earlier = some long ∨ later = some long := by
  cases earlier with
  | none => exact .inr found
  | some first =>
      cases later with
      | none => exact .inl found
      | some other =>
          simp only [first?] at found
          split at found
          · exact .inr found
          · exact .inl found

theorem exists_first?_of_earlier {long : LongInteger} (found : earlier = some long) :
    ∃ first, first? earlier later = some first ∧ first.depth ≤ long.depth := by
  subst found
  cases later with
  | none => exact ⟨long, rfl, Nat.le.refl⟩
  | some other =>
      simp only [first?]
      split
      · next deeper => exact ⟨other, rfl, Nat.le_of_lt deeper⟩
      · exact ⟨long, rfl, Nat.le.refl⟩

theorem exists_first?_of_later {long : LongInteger} (found : later = some long) :
    ∃ first, first? earlier later = some first ∧ first.depth ≤ long.depth := by
  subst found
  cases earlier with
  | none => exact ⟨long, rfl, Nat.le.refl⟩
  | some other =>
      simp only [first?]
      split
      · exact ⟨long, rfl, Nat.le.refl⟩
      · next shallow => exact ⟨other, rfl, Nat.le_of_not_lt shallow⟩

end LongInteger

/-!
## The first of a value
-/

namespace Value

/-- A value holds a long integer at a depth. -/
inductive HoldsLong : Value → LongInteger → Prop where
  | integer {value : Int} :
      Text.digitLimit < digitCount value → HoldsLong (.integer value) ⟨0, digitCount value⟩
  | item {items : List Value} {item : Value} {long : LongInteger} :
      item ∈ items → HoldsLong item long → HoldsLong (.list items) long.deeper
  | entry {entries : List (Text × Value)} {entry : Text × Value} {long : LongInteger} :
      entry ∈ entries → HoldsLong entry.2 long → HoldsLong (.mapping entries) long.deeper

theorem holdsLong_integer_iff {value : Int} :
    (∃ long, (integer value).HoldsLong long) ↔ Nat.pow 10 Text.digitLimit ≤ value.natAbs := by
  have short : digitCount value ≤ Text.digitLimit ↔ value.natAbs < Nat.pow 10 Text.digitLimit :=
    Text.length_decimal_le_iff (by decide)
  rw [← Nat.not_lt, ← short, Nat.not_le]
  constructor
  · intro ⟨long, held⟩
    cases held with
    | integer isLong => exact isLong
  · intro isLong
    exact ⟨_, .integer isLong⟩

theorem exists_holdsLong_of_le {value : Nat} (isLong : Nat.pow 10 Text.digitLimit ≤ value) :
    ∃ long, (integer (Int.ofNat value)).HoldsLong long := holdsLong_integer_iff.mpr isLong

mutual

theorem holdsLong_of_longInteger? (value : Value) (long : LongInteger)
    (found : value.longInteger? = some long) : value.HoldsLong long := by
  cases value with
  | integer value =>
      rw [longInteger?, Option.ite_none_right_eq_some] at found
      obtain ⟨isLong, same⟩ := found
      cases same
      exact .integer isLong
  | list items =>
      rw [longInteger?, Option.map_eq_some_iff] at found
      obtain ⟨inner, found, rfl⟩ := found
      obtain ⟨item, member, held⟩ := exists_item_of_longInItems? items inner found
      exact .item member held
  | mapping entries =>
      rw [longInteger?, Option.map_eq_some_iff] at found
      obtain ⟨inner, found, rfl⟩ := found
      obtain ⟨entry, member, held⟩ := exists_entry_of_longInMapping? entries inner found
      exact .entry member held
  | _ => cases found
termination_by structural value

theorem exists_item_of_longInItems? (items : List Value) (long : LongInteger)
    (found : longInItems? items = some long) : ∃ item ∈ items, item.HoldsLong long := by
  cases items with
  | nil => cases found
  | cons item rest =>
      rcases LongInteger.eq_or_eq_of_first? found with found | found
      · exact ⟨item, List.mem_cons_self, holdsLong_of_longInteger? item long found⟩
      · obtain ⟨other, member, held⟩ := exists_item_of_longInItems? rest long found
        exact ⟨other, List.mem_cons_of_mem item member, held⟩
termination_by structural items

theorem exists_entry_of_longInMapping? (entries : List (Text × Value)) (long : LongInteger)
    (found : longInMapping? entries = some long) : ∃ entry ∈ entries, entry.2.HoldsLong long := by
  cases entries with
  | nil => cases found
  | cons entry rest =>
      rcases LongInteger.eq_or_eq_of_first? found with found | found
      · exact ⟨entry, List.mem_cons_self, holdsLong_of_longInPair? entry long found⟩
      · obtain ⟨other, member, held⟩ := exists_entry_of_longInMapping? rest long found
        exact ⟨other, List.mem_cons_of_mem entry member, held⟩
termination_by structural entries

theorem holdsLong_of_longInPair? (entry : Text × Value) (long : LongInteger)
    (found : longInPair? entry = some long) : entry.2.HoldsLong long := by
  obtain ⟨key, value⟩ := entry
  exact holdsLong_of_longInteger? value long found
termination_by structural entry

end

theorem exists_longInItems?_of_mem {items : List Value} {item : Value} {long : LongInteger}
    (member : item ∈ items) (found : item.longInteger? = some long) :
    ∃ first, longInItems? items = some first ∧ first.depth ≤ long.depth := by
  induction items with
  | nil => cases member
  | cons head rest ih =>
      rcases List.mem_cons.mp member with rfl | member
      · exact LongInteger.exists_first?_of_earlier found
      · obtain ⟨inner, foundInner, le⟩ := ih member
        obtain ⟨first, foundFirst, leInner⟩ :
            ∃ first, longInItems? (head :: rest) = some first ∧ first.depth ≤ inner.depth :=
          LongInteger.exists_first?_of_later foundInner
        exact ⟨first, foundFirst, Nat.le_trans leInner le⟩

theorem longInMapping?_eq (entries : List (Text × Value)) :
    longInMapping? entries = longInItems? (entries.map Prod.snd) := by
  induction entries with
  | nil => rfl
  | cons entry rest ih =>
      obtain ⟨key, value⟩ := entry
      rw [List.map_cons, longInMapping?, longInItems?, longInPair?, ih]

/-- No long integer of a value is less deep than the one that is met first. -/
theorem exists_longInteger?_of_holdsLong {value : Value} {long : LongInteger}
    (held : value.HoldsLong long) :
    ∃ first, value.longInteger? = some first ∧ first.depth ≤ long.depth := by
  induction held with
  | integer isLong => exact ⟨_, if_pos isLong, Nat.le.refl⟩
  | item member _ ih =>
      obtain ⟨inner, found, le⟩ := ih
      obtain ⟨first, foundFirst, leInner⟩ := exists_longInItems?_of_mem member found
      refine ⟨first.deeper, ?_, Nat.succ_le_succ (Nat.le_trans leInner le)⟩
      rw [longInteger?, foundFirst, Option.map_some]
  | entry member _ ih =>
      obtain ⟨inner, found, le⟩ := ih
      obtain ⟨first, foundFirst, leInner⟩ :=
        exists_longInItems?_of_mem (List.mem_map_of_mem member) found
      refine ⟨first.deeper, ?_, Nat.succ_le_succ (Nat.le_trans leInner le)⟩
      rw [longInteger?, longInMapping?_eq, foundFirst, Option.map_some]

theorem longInteger?_eq_none_iff {value : Value} :
    value.longInteger? = none ↔ ∀ long, ¬ value.HoldsLong long := by
  constructor
  · intro none long held
    obtain ⟨first, found, -⟩ := exists_longInteger?_of_holdsLong held
    rw [none] at found
    cases found
  · intro short
    cases found : value.longInteger? with
    | none => rfl
    | some long => exact absurd (holdsLong_of_longInteger? value long found) (short long)

end Value

end ConnectionUri
