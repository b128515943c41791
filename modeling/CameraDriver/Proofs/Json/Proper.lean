/-
The values that the reader gives.

A value is proper if at every level its objects keep their members in ascending
order, each key once, and if its numbers are finite. Equality by value needs the
second: a NaN would not equal itself (`Proper.same_self`).

Every value that is read is proper (`parse_proper`). The reader sets the members
of an object one by one, which keeps them in order, and takes no number that
would be infinite.
-/
import CameraDriver.Json.Reader
import CameraDriver.Proofs.Json.Members
import CameraDriver.Proofs.Number.Finite

namespace CameraDriver.Json

open Number

/-- A value with ordered objects and finite numbers. -/
inductive Proper : Json → Prop
  | null : Proper .null
  | bool (b : Bool) : Proper (.bool b)
  | int (n : Int) : Proper (.int n)
  | double {x : Binary64} (h : x.isFinite = true) : Proper (.double x)
  | str (s : String) : Proper (.str s)
  | arr {items : List Json} (h : ∀ j ∈ items, Proper j) : Proper (.arr items)
  | obj {ms : Members} (hkeys : ms.Ascending) (h : ∀ e ∈ ms, Proper e.2) : Proper (.obj ms)

-- ================================================================ members

namespace Proper

variable {ms : Members} {key : String} {value : Json}

/-- The members of a proper object are in order. -/
theorem ascending (h : Proper (.obj ms)) : ms.Ascending := by
  cases h with
  | obj hkeys _ => exact hkeys

/-- A member of a proper object is proper. -/
theorem get? (h : Proper (.obj ms)) (hget : ms.get? key = some value) : value.Proper := by
  cases h with
  | obj hkeys h => exact h (key, value) (hkeys.mem_iff.mpr hget)

theorem empty : Proper (.obj []) := .obj .nil fun e he => by cases he

/-- Setting a proper member keeps an object proper. -/
theorem insert (h : Proper (.obj ms)) (key : String) (hvalue : value.Proper) :
    Proper (.obj (Members.insert key value ms)) := by
  cases h with
  | obj hkeys h =>
      refine .obj (hkeys.insert key value) ?_
      intro e he
      rcases Members.mem_insert he with rfl | he
      · exact hvalue
      · exact h e he

end Proper

-- =============================================================== equality

theorem sameItems_self {items : List Json} (h : ∀ j ∈ items, j.same j = true) :
    sameItems items items = true := by
  induction items with
  | nil => rfl
  | cons j rest ih =>
      show (j.same j && sameItems rest rest) = true
      rw [h j List.mem_cons_self, ih fun j hj => h j (List.mem_cons_of_mem _ hj), Bool.true_and]

theorem sameMembers_self {ms : Members} (h : ∀ e ∈ ms, e.2.same e.2 = true) :
    sameMembers ms ms = true := by
  induction ms with
  | nil => rfl
  | cons e rest ih =>
      show (e.1 == e.1 && e.2.same e.2 && sameMembers rest rest) = true
      rw [h e List.mem_cons_self, ih fun e he => h e (List.mem_cons_of_mem _ he),
        beq_self_eq_true, Bool.true_and, Bool.true_and]

/-- A proper value equals itself. -/
theorem Proper.same_self {j : Json} (h : j.Proper) : j.same j = true := by
  induction h with
  | null => rfl
  | bool b => exact beq_self_eq_true b
  | int n => exact beq_self_eq_true n
  | double h => exact Binary64.same_self h
  | str s => exact beq_self_eq_true s
  | arr _ ih => exact sameItems_self ih
  | obj _ _ ih => exact sameMembers_self ih

mutual

/-- Equality by value goes both ways. -/
theorem same_comm : ∀ a b : Json, a.same b = b.same a
  | .null, b => by cases b <;> rfl
  | .bool x, b => by cases b <;> first | rfl | exact Bool.beq_comm
  | .int x, b => by cases b <;> first | rfl | exact Bool.beq_comm
  | .double x, b => by cases b <;> first | rfl | exact Binary64.same_comm _ _
  | .single x, b => by cases b <;> first | rfl | exact Bool.beq_comm
  | .str x, b => by cases b <;> first | rfl | exact Bool.beq_comm
  | .arr as, b => by cases b <;> first | rfl | exact sameItems_comm as _
  | .obj as, b => by cases b <;> first | rfl | exact sameMembers_comm as _

theorem sameItems_comm : ∀ as bs : List Json, sameItems as bs = sameItems bs as
  | [], bs => by cases bs <;> rfl
  | a :: as, [] => rfl
  | a :: as, b :: bs => by
      show (a.same b && sameItems as bs) = (b.same a && sameItems bs as)
      rw [same_comm a b, sameItems_comm as bs]

theorem sameMembers_comm : ∀ as bs : Members, sameMembers as bs = sameMembers bs as
  | [], bs => by cases bs <;> rfl
  | a :: as, [] => rfl
  | (j, a) :: as, (k, b) :: bs => by
      show (j == k && a.same b && sameMembers as bs) = (k == j && b.same a && sameMembers bs as)
      rw [same_comm a b, sameMembers_comm as bs, Bool.beq_comm]

end

-- ================================================================ numbers

/-- The digits that are read at first make a number below 2^64. -/
theorem leadingDigits_lt {acc : Nat} (h : acc < 2 ^ 64) (digits : List Char) :
    (leadingDigits acc digits).1 < 2 ^ 64 := by
  induction digits generalizing acc with
  | nil => exact h
  | cons c rest ih =>
      unfold leadingDigits
      dsimp only
      split
      case isTrue hnext => exact ih hnext
      case isFalse => exact h

/-- A number that is made of digits is proper, whatever its sign. -/
theorem proper_number? {negative : Bool} {whole places : List Char} {exponent : Option Int}
    {j : Json} (h : number? negative whole places exponent = some j) : j.Proper := by
  have hzero : 0 < 2 ^ 64 := Nat.pow_pos two_pos
  have hwhole := leadingDigits_lt hzero whole
  have hsigned : ∀ x : Binary64, x.isFinite = true →
      Proper (.double (if negative then x.negate else x)) := by
    intro x hx
    refine .double ?_
    cases negative with
    | true => exact (Binary64.isFinite_negate x).trans hx
    | false => exact hx
  unfold number? at h
  dsimp only at h
  split at h
  case isTrue =>
    split at h
    case isTrue =>
      rw [← Option.some.inj h]
      exact .int _
    case isFalse =>
      split at h
      case isTrue =>
        rw [← Option.some.inj h]
        exact .int _
      case isFalse =>
        rw [← Option.some.inj h]
        exact hsigned _ (Binary64.isFinite_ofNat hwhole)
  case isFalse =>
    obtain ⟨x, hx, rfl⟩ := Option.map_eq_some_iff.mp h
    refine hsigned x (Binary64.isFinite_timesTenTo? ?_ hx)
    exact Binary64.isFinite_ofNat (leadingDigits_lt hwhole places)

-- ================================================================= reader

/-- What a reader gives, if it gives a value, is proper. -/
def GivesProper (r : Except Fault (Json × Cursor)) : Prop := ∀ j c, r = .ok (j, c) → j.Proper

namespace GivesProper

/-- A read that gives a proper value gives nothing else. -/
theorem ok {j : Json} (h : j.Proper) (c : Cursor) : GivesProper (.ok (j, c)) := by
  intro j' c' he
  cases he
  exact h

/-- A read that fails gives no value at all. -/
theorem error (f : Fault) : GivesProper (.error f) := fun j c h => by cases h

/-- What is made of a read is proper if whatever it is made of gives that. -/
theorem map {α : Type} {x : Except Fault α} {f : α → Json × Cursor} (h : ∀ a, (f a).1.Proper) :
    GivesProper (x.map f) := by
  cases x with
  | error e => exact error e
  | ok a => exact ok (h a) _

/-- A read that goes on gives what the rest gives. -/
theorem bind {α : Type} {x : Except Fault α} {f : α → Except Fault (Json × Cursor)}
    (h : ∀ a, x = .ok a → GivesProper (f a)) : GivesProper (x >>= f) := by
  cases x with
  | error e => exact error e
  | ok a => exact h a rfl

end GivesProper

/-- A number with an exponent is proper: it is finite. -/
theorem givesProper_readExponent (negative : Bool) (whole places : List Char) (c : Cursor) :
    GivesProper (readExponent negative whole places c) := by
  have hzero : (Binary64.round negative 0 1).isFinite = true := by
    cases negative <;> decide +kernel
  unfold readExponent
  dsimp only
  -- the exponent is read or not; either way the digits make the number
  repeat' split
  all_goals first
    | exact .error _
    | exact .ok (proper_number? ‹_›) _
    | exact .ok (.double hzero) _

/-- A number that is read is proper. -/
theorem givesProper_readNumber (negative : Bool) (c : Cursor) :
    GivesProper (readNumber negative c) := by
  have hfraction : ∀ whole c, GivesProper (readFraction negative whole c) := by
    intro whole c
    unfold readFraction
    dsimp only
    repeat' split
    all_goals first
      | exact givesProper_readExponent _ _ _ _
      | exact .error _
  unfold readNumber
  dsimp only
  repeat' split
  all_goals first
    | exact hfraction _ _
    | exact .error _

section Fuel

variable {fuel : Nat}
  (hvalue : ∀ depth c, GivesProper (readValue fuel depth c))
  (hitems : ∀ depth first acc c, (∀ j ∈ acc, Proper j) →
    GivesProper (readItems fuel depth first acc c))
  (hmembers : ∀ depth first acc c, Proper (.obj acc) →
    GivesProper (readMembers fuel depth first acc c))

include hitems hmembers in
/-- A value that is read is proper, if those within it are. -/
theorem givesProper_readValue_succ (depth : Nat) (c : Cursor) :
    GivesProper (readValue (fuel + 1) depth c) := by
  unfold readValue
  dsimp only
  repeat' split
  all_goals first
    | exact .error _
    | exact .map fun _ => .null
    | exact .map fun _ => .bool _
    | exact .map fun _ => .str _
    | exact givesProper_readNumber _ _
    | exact hitems _ _ _ _ fun j hj => by cases hj
    | exact hmembers _ _ _ _ .empty

include hvalue hitems in
/-- A list that is read is proper, if its items are. -/
theorem givesProper_readItems_succ (depth : Nat) (first : Bool) {acc : List Json} (c : Cursor)
    (hacc : ∀ j ∈ acc, Proper j) : GivesProper (readItems (fuel + 1) depth first acc c) := by
  -- an item and what follows it
  have hnext : ∀ c, GivesProper (readValue fuel depth c >>= fun r =>
      readItems fuel depth false (r.1 :: acc) r.2) := by
    intro c
    refine .bind ?_
    rintro ⟨j, c⟩ hj
    refine hitems _ _ _ _ ?_
    intro j' hj'
    rcases List.mem_cons.mp hj' with rfl | hj'
    · exact hvalue _ _ _ _ hj
    · exact hacc j' hj'
  have hend : Proper (.arr acc.reverse) := .arr fun j hj => hacc j (List.mem_reverse.mp hj)
  unfold readItems
  dsimp only
  repeat' split
  all_goals first
    | exact .error _
    | exact .ok hend _
    | exact hnext _

include hvalue hmembers in
/-- An object that is read is proper, if its values are. -/
theorem givesProper_readMembers_succ (depth : Nat) (first : Bool) {acc : Members} (c : Cursor)
    (hacc : Proper (.obj acc)) : GivesProper (readMembers (fuel + 1) depth first acc c) := by
  -- a value behind its key and what follows it
  have hnext : ∀ key c, GivesProper (readValue fuel depth c >>= fun r =>
      readMembers fuel depth false (Members.insert key r.1 acc) r.2) := by
    intro key c
    refine .bind ?_
    rintro ⟨j, c⟩ hj
    exact hmembers _ _ _ _ (hacc.insert key (hvalue _ _ _ _ hj))
  unfold readMembers
  simp only [pure_bind]
  repeat' split
  all_goals first
    | exact .error _
    | exact .ok hacc _
    | refine .bind fun r _ => ?_
      repeat' split
      all_goals first
        | exact .error _
        | exact hnext _ _

end Fuel

/-- The three readers that call each other, with any fuel. -/
theorem givesProper_read (fuel : Nat) :
    (∀ depth c, GivesProper (readValue fuel depth c))
      ∧ (∀ depth first acc c, (∀ j ∈ acc, Proper j) → GivesProper (readItems fuel depth first acc c))
      ∧ ∀ depth first acc c, Proper (.obj acc) → GivesProper (readMembers fuel depth first acc c) := by
  induction fuel with
  | zero =>
      refine ⟨?_, ?_, ?_⟩
      · exact fun depth c => .error _
      · exact fun depth first acc c _ => .error _
      · exact fun depth first acc c _ => .error _
  | succ fuel ih =>
      obtain ⟨hvalue, hitems, hmembers⟩ := ih
      refine ⟨?_, ?_, ?_⟩
      · exact givesProper_readValue_succ hitems hmembers
      · exact fun depth first acc c => givesProper_readItems_succ hvalue hitems depth first c
      · exact fun depth first acc c => givesProper_readMembers_succ hvalue hmembers depth first c

/-- Every value that is read is proper. -/
theorem parse_proper {bytes : Bytes} {j : Json} (h : parse bytes = .ok j) : j.Proper := by
  unfold parse at h
  cases hread : readValue (2 * bytes.length + 2) nesting ⟨0, bytes⟩ with
  | error e =>
      rw [hread] at h
      cases h
  | ok r =>
      obtain ⟨j', c⟩ := r
      have hproper := (givesProper_read _).1 nesting _ j' c hread
      rw [hread] at h
      change Except.mapError _ (if c.skipSpace.rest.isEmpty then .ok j' else _) = _ at h
      split at h
      case isTrue =>
        cases h
        exact hproper
      case isFalse => cases h

end CameraDriver.Json
