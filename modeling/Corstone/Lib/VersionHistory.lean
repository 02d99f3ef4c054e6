import Corstone.Lib.History

/-!
# Versions of updated records

A server holds a version for each record. It reports the version when it hands
the record out. An update names the version it expects; it is accepted, and the
version counts up, if this is the version held, and otherwise it changes
nothing. The history of both is newest first.

* `accepted_iff_inTurn`: as long as no update has been rejected, an update is
  accepted iff the version handed out and the number of updates since then add
  up to the version it expects.
-/

namespace Corstone.Lib

/-- What reaches the server: the request that hands a record out with its
    version, and an update that expects a version. -/
inductive VersionEvent (K : Type*)
  | handedOut (key : K) (version : ℕ)
  | update (key : K) (expected : ℕ)
  deriving DecidableEq

section Versions

variable {K : Type*} [DecidableEq K]

/-- The version that the server holds. -/
def versionHeld (key : K) : List (VersionEvent K) → Option ℕ
  | [] => none
  | .handedOut k version :: l => if k = key then some version else versionHeld key l
  | .update k expected :: l =>
    if k = key ∧ versionHeld key l = some expected then some (expected + 1) else versionHeld key l

/-- The version with which the record was handed out last. -/
def versionHandedOut (key : K) : List (VersionEvent K) → Option ℕ
  | [] => none
  | .handedOut k version :: l => if k = key then some version else versionHandedOut key l
  | .update _ _ :: l => versionHandedOut key l

/-- The number of updates that have reached the server since then. -/
def updatesSince (key : K) : List (VersionEvent K) → ℕ
  | [] => 0
  | .handedOut k _ :: l => if k = key then 0 else updatesSince key l
  | .update k _ :: l => if k = key then updatesSince key l + 1 else updatesSince key l

/-- The update expects the version that the server holds. -/
def Accepted (l : List (VersionEvent K)) : VersionEvent K → Prop
  | .handedOut _ _ => True
  | .update key expected => versionHeld key l = some expected

/-- The update is the one whose turn it is since the record was handed out. -/
def InTurn (l : List (VersionEvent K)) (key : K) (expected : ℕ) : Prop :=
  ∃ version, versionHandedOut key l = some version ∧ version + updatesSince key l = expected

instance (l : List (VersionEvent K)) (e : VersionEvent K) : Decidable (Accepted l e) :=
  match e with
  | .handedOut _ _ => isTrue trivial
  | .update _ _ => inferInstanceAs (Decidable (_ = _))

/-- The server counts the updates that it accepts. -/
theorem versionHeld_eq {l : List (VersionEvent K)} (h : Always Accepted l) (key : K) :
    versionHeld key l =
      (versionHandedOut key l).map fun version => version + updatesSince key l := by
  induction l with
  | nil => rfl
  | cons e l ih =>
    have hl := ih h.2
    cases e with
    | handedOut k version =>
      by_cases hk : k = key
      · simp [versionHeld, versionHandedOut, updatesSince, hk]
      · simp [versionHeld, versionHandedOut, updatesSince, hk, hl]
    | update k expected =>
      by_cases hk : k = key
      · subst hk
        have haccepted : versionHeld k l = some expected := h.1
        simp only [versionHeld, versionHandedOut, updatesSince, haccepted, and_self, if_true]
        rw [hl] at haccepted
        obtain ⟨version, hversion, rfl⟩ := Option.map_eq_some_iff.mp haccepted
        rw [hversion]
        rfl
      · simp [versionHeld, versionHandedOut, updatesSince, hk, hl]

/-- **When the next update is accepted.** -/
theorem accepted_iff_inTurn {l : List (VersionEvent K)} (h : Always Accepted l) (key : K)
    (expected : ℕ) : Accepted l (.update key expected) ↔ InTurn l key expected := by
  rw [Accepted, versionHeld_eq h, Option.map_eq_some_iff]
  exact Iff.rfl

end Versions

end Corstone.Lib
