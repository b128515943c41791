/-
The composed normal form of a text: everything is taken apart, characters
that attach to the same one are put in the order of their classes, and what
composes is composed from the left.
-/
import CameraDriver.Text.CombiningClass
import CameraDriver.Text.Decomposition

namespace CameraDriver.Text.Composed

/-- Puts a character into a run of attached ones, behind those of its class. -/
def attach (n : Nat) : List Nat → List Nat
  | [] => [n]
  | m :: rest =>
      if combiningClass n < combiningClass m then n :: m :: rest else m :: attach n rest

/-- The characters in order; `run` holds the attached ones at hand. -/
def ordered (run : List Nat) : List Nat → List Nat
  | [] => run
  | n :: rest =>
      if combiningClass n = 0 then run ++ n :: ordered [] rest else ordered (attach n run) rest

/-- Composes what follows a starter. `kept` are the characters between the
starter and the rest, backwards, and `last` is the class of the nearest of
them. -/
def compose (starter : Nat) (kept : List Nat) (last : Option Nat) : List Nat → List Nat
  | [] => starter :: kept.reverse
  | n :: rest =>
      let k := combiningClass n
      let blocked := match last with
        | none => false
        | some j => j = 0 || k ≤ j
      match if blocked then none else Decomposition.compose? starter n with
      | some c => compose c kept last rest
      | none =>
          if k = 0 then starter :: kept.reverse ++ compose n [] none rest
          else compose starter (n :: kept) (some k) rest

/-- The composed form of ordered characters; those before the first starter
stay. -/
def composeAll : List Nat → List Nat
  | [] => []
  | n :: rest =>
      if combiningClass n = 0 then compose n [] none rest else n :: composeAll rest

/-- The composed normal form. -/
def ofChars (cs : List Char) : List Char :=
  (composeAll (ordered [] (cs.flatMap fun c => Decomposition.full c.toNat))).map Char.ofNat

end CameraDriver.Text.Composed
