import O3k.Coordination.WorkLease

/-!
# Fencing tokens

A tenure of a work key starts when its row is inserted or an expired row is
taken over.

Tokens are issued from two places.  An insertion takes the next value of the
durable counter of the key; a take-over adds one to the token in the row and
leaves the counter alone.  As long as the row is there its token is the highest
one issued; when a release deletes the row, only the counter remembers.
-/

namespace O3k
namespace Coordination

open Relational Relational.Transaction Semantics

section FencingTokens

def LeaseReply.fencingToken? : LeaseReply → Option Nat
  | .acquired (.ok (.acquired lease)) => some lease.fencingToken
  | .acquired (.ok (.busy _ fencingToken _ _)) => some fencingToken
  | _ => none

def tokenReturned (clock : LeaseClock) (key : String) (w : LeaseWorld) (s : LeaseStep) :
    Option Nat :=
  if s.workKey? = some key then
    (w.reply clock s).fencingToken?
  else
    none

/-- An acquisition made now starts a new tenure: the row is absent or expired. -/
def StartsTenure (key : String) (w : LeaseWorld) : Prop :=
  ∀ lease, w.tables.workLeases.get? key = some lease → lease.leaseUntil < w.now

/-- Every tenure of the run starts with a token above all tokens returned
before it. -/
def TokensIncrease (clock : LeaseClock) (key : String) (w : LeaseWorld) (steps : List LeaseStep) :
    Prop :=
  ∀ before s after,
    steps = before ++ s :: after →
    StartsTenure key (run (LeaseWorld.step clock) w before) →
    ∀ fencingToken,
      tokenReturned clock key (run (LeaseWorld.step clock) w before) s
        = some fencingToken →
      ∀ earlier ∈
          outputs (LeaseWorld.step clock) (tokenReturned clock key) w before,
        earlier < fencingToken

/-- A release of the key deletes no row whose token is above the durable
counter, that is, none that was taken over since it was inserted. -/
def ReleaseWithinFence (key : String) (w : LeaseWorld) : LeaseStep → Prop
  | .release workKey session fencingToken =>
    workKey = key →
    ∀ lease,
      fencedLease w.tables workKey session fencingToken = some lease →
      lease.fencingToken ≤ w.tables.fence workKey
  | _ => True

/-- The highest token issued so far, as far as the store can tell. -/
def KeyState.highestToken (k : KeyState) : Nat :=
  match k.row with
  | some lease => lease.fencingToken
  | none => k.fence

/-- The counter never passes the row, and the store dominates every token. -/
structure Dominates (k : KeyState) (issued : List Nat) : Prop where
  fence_le : k.fence ≤ k.highestToken
  issued_le : ∀ fencingToken ∈ issued, fencingToken ≤ k.highestToken

namespace Dominates

theorem mono {k k' : KeyState} {issued : List Nat}
    (h : Dominates k issued) (hfence : k'.fence ≤ k'.highestToken)
    (hle : k.highestToken ≤ k'.highestToken) :
    Dominates k' issued :=
  ⟨hfence, fun fencingToken hmem => (h.issued_le fencingToken hmem).trans hle⟩

theorem snoc {k : KeyState} {issued : List Nat} {fencingToken : Nat}
    (h : Dominates k issued) (hle : fencingToken ≤ k.highestToken) :
    Dominates k (issued ++ [fencingToken]) := by
  refine ⟨h.fence_le, ?_⟩
  intro token hmem
  rcases List.mem_append.mp hmem with hmem | hmem
  · exact h.issued_le token hmem
  · rw [List.mem_singleton.mp hmem]
    exact hle

end Dominates

/-- A protocol step about the key keeps the domination, unless it deletes a
row whose token has overtaken the counter. -/
theorem dominates_change {now : Time} {key : String} {s : LeaseStep} {reply : LeaseReply}
    {k k' : KeyState} {issued : List Nat} (hchange : KeyChange now key s reply k k')
    (hkey : s.workKey? = some key) (hk : Dominates k issued)
    (hrelease :
      ∀ existing, k.row = some existing → s = .release key existing.owner existing.fencingToken →
        existing.fencingToken ≤ k.fence) :
    Dominates k' (issued ++ reply.fencingToken?.toList) := by
  have hfence := hk.fence_le
  cases hchange with
  | elsewhere _ _ hother => exact absurd hkey hother
  | rejected e _ hreply =>
    rcases hreply with rfl | rfl
    · simpa [LeaseReply.fencingToken?] using hk
    · simpa [LeaseReply.fencingToken?] using hk
  | inserted lease fence _ htoken =>
    have hle : fence ≤ lease.fencingToken := by omega
    have hnext : Dominates ⟨some lease, fence + 1⟩ issued := hk.mono htoken.ge hle
    exact hnext.snoc (Nat.le_refl _)
  | reacquired existing lease fence _ _ _ htoken =>
    have hle : existing.fencingToken ≤ lease.fencingToken := htoken.ge
    have hnext : Dominates ⟨some lease, fence⟩ issued := hk.mono (hfence.trans hle) hle
    exact hnext.snoc (Nat.le_refl _)
  | takenOver existing lease fence _ _ htoken =>
    have hle : existing.fencingToken ≤ lease.fencingToken := by omega
    have hnext : Dominates ⟨some lease, fence⟩ issued := hk.mono (hfence.trans hle) hle
    exact hnext.snoc (Nat.le_refl _)
  | busy existing fence _ _ => exact hk.snoc (Nat.le_refl _)
  | renewed existing lease fence _ _ htoken =>
    have hle : existing.fencingToken ≤ lease.fencingToken := htoken.ge
    have hnext : Dominates ⟨some lease, fence⟩ issued := hk.mono (hfence.trans hle) hle
    simpa [LeaseReply.fencingToken?] using hnext
  | released existing fence =>
    have hnext : Dominates ⟨none, fence⟩ issued :=
      hk.mono (Nat.le_refl fence) (hrelease existing rfl rfl)
    simpa [LeaseReply.fencingToken?] using hnext
  | relinquished existing lease fence _ htoken =>
    have hle : existing.fencingToken ≤ lease.fencingToken := htoken.ge
    have hnext : Dominates ⟨some lease, fence⟩ issued := hk.mono (hfence.trans hle) hle
    simpa [LeaseReply.fencingToken?] using hnext
  | refused _ => simpa [LeaseReply.fencingToken?] using hk

theorem highestToken_lt_of_tenure {now : Time} {key : String} {s : LeaseStep} {reply : LeaseReply}
    {k k' : KeyState} {fencingToken : Nat} (hchange : KeyChange now key s reply k k')
    (hkey : s.workKey? = some key) (htenure : ∀ lease, k.row = some lease → lease.leaseUntil < now)
    (hreturned : reply.fencingToken? = some fencingToken) :
    k.highestToken < fencingToken := by
  cases hchange with
  | elsewhere _ _ hother => exact absurd hkey hother
  | rejected e _ hreply =>
    rcases hreply with rfl | rfl
    · cases hreturned
    · cases hreturned
  | inserted lease fence _ htoken =>
    have hlease : lease.fencingToken = fencingToken := Option.some.inj hreturned
    show fence < fencingToken
    omega
  | reacquired existing lease fence hlive =>
    exact absurd (htenure existing rfl) (Int.not_lt.mpr hlive)
  | takenOver existing lease fence _ _ htoken =>
    have hlease : lease.fencingToken = fencingToken := Option.some.inj hreturned
    show existing.fencingToken < fencingToken
    omega
  | busy existing fence hlive => exact absurd (htenure existing rfl) (Int.not_lt.mpr hlive)
  | renewed existing lease fence => cases hreturned
  | released existing fence => cases hreturned
  | relinquished existing lease fence => cases hreturned
  | refused _ => cases hreturned

theorem dominates_step {clock : LeaseClock} {key : String} {w : LeaseWorld} {issued : List Nat}
    {s : LeaseStep} (hw : Dominates (w.tables.keyState key) issued)
    (hguard : ReleaseWithinFence key w s) :
    Dominates ((w.step clock s).tables.keyState key)
      (issued ++ (tokenReturned clock key w s).toList) := by
  have hchange := keyChange_step clock w s key
  by_cases hkey : s.workKey? = some key
  · rw [tokenReturned, if_pos hkey]
    refine dominates_change hchange hkey hw ?_
    rintro existing hrow rfl
    exact hguard rfl existing (fencedLease_eq_some_iff.mpr ⟨hrow, rfl, rfl⟩)
  · have hsame : (w.step clock s).tables.keyState key = w.tables.keyState key :=
      hchange.eq_of_elsewhere hkey
    rw [tokenReturned, if_neg hkey, hsame]
    simpa using hw

/-- **Fencing tokens increase**: in every run in which no release deletes a row
that has overtaken the durable counter, each new tenure of the key carries a
token above every token returned before it. -/
theorem fencing_tokens_increase_of_releases_within_fence
    (clock : LeaseClock) (key : String) (now : Time) (steps : List LeaseStep)
    (hguard :
      EachStep (LeaseWorld.step clock) (ReleaseWithinFence key) (LeaseWorld.initial now) steps) :
    TokensIncrease clock key (LeaseWorld.initial now) steps := by
  rintro before s after rfl htenure fencingToken hreturned earlier hearlier
  have hdominates :
      Dominates
        ((run (LeaseWorld.step clock) (LeaseWorld.initial now) before).tables.keyState key)
        (outputs (LeaseWorld.step clock) (tokenReturned clock key)
          (LeaseWorld.initial now) before) :=
    outputs_of_guarded
      (H := fun w issued => Dominates (w.tables.keyState key) issued)
      (fun w issued s hw hs => dominates_step hw hs)
      _ before ⟨Nat.le_refl 0, by simp⟩ hguard.of_append_left
  have hle := hdominates.issued_le earlier hearlier
  have hkey : s.workKey? = some key := by
    by_contra hother
    simp [tokenReturned, hother] at hreturned
  rw [tokenReturned, if_pos hkey] at hreturned
  exact hle.trans_lt
    (highestToken_lt_of_tenure (keyChange_step clock _ s key) hkey htenure hreturned)

/-- A run with a take-over, a renewal and a relinquished lease meets the guard. -/
theorem fencing_tokens_increase_over_takeOver :
    TokensIncrease sqliteLeaseClock "volume/1" (LeaseWorld.initial 0)
      [ .acquire "volume/1" "reconcile" ⟨"a", "1"⟩ 1000000000, .advance 2000,
        .acquire "volume/1" "reconcile" ⟨"b", "1"⟩ 1000000000,
        .renew "volume/1" ⟨"b", "1"⟩ 2 1000000000,
        .relinquish "volume/1" ⟨"b", "1"⟩ 2,
        .acquire "volume/1" "reconcile" ⟨"a", "2"⟩ 1000000000 ] :=
  fencing_tokens_increase_of_releases_within_fence _ _ _ _
    (by simp [EachStep, ReleaseWithinFence])

/-- A take-over, a release that deletes the row, and the next insertion returns
the token of the take-over again. -/
theorem fencing_token_repeats :
    ¬ ∀ steps, TokensIncrease sqliteLeaseClock "volume/1" (LeaseWorld.initial 0) steps := by
  intro h
  have hrepeat :=
    h [ .acquire "volume/1" "reconcile" ⟨"a", "1"⟩ 1000000000,
        .advance 2000,
        .acquire "volume/1" "reconcile" ⟨"b", "1"⟩ 1000000000,
        .release "volume/1" ⟨"b", "1"⟩ 2,
        .acquire "volume/1" "reconcile" ⟨"a", "1"⟩ 1000000000 ]
      [ .acquire "volume/1" "reconcile" ⟨"a", "1"⟩ 1000000000,
        .advance 2000,
        .acquire "volume/1" "reconcile" ⟨"b", "1"⟩ 1000000000,
        .release "volume/1" ⟨"b", "1"⟩ 2 ]
      (.acquire "volume/1" "reconcile" ⟨"a", "1"⟩ 1000000000)
      [] rfl
      (by unfold StartsTenure; exact fun lease hlease => by cases hlease)
      2 (by decide) 2 (by decide)
  exact absurd hrepeat (by decide)

end FencingTokens

end Coordination
end O3k
