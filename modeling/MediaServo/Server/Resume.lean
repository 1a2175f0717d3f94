import MediaServo.Foundations.Eviction
import MediaServo.Foundations.Utf8
import MediaServo.Server.Roles

/-! Session retention: one-time re-attach tickets, keyed by identity and room. -/

namespace MediaServo.Server

open MediaServo.Foundations MediaServo.Common

def resumeGlobalCap : ℕ := 32

structure HeldResume where
  peerId : String
  nonce : String
  negotiated : ℕ
  seq : ℕ
  deriving DecidableEq

def identityKey : SessionIdentity → String
  | .device d => d
  | .account a => a.username
  | .legacy => "legacy"

abbrev ResumeTable := FiniteMap (String × String) HeldResume

def pruneResume (table : ResumeTable) (cap : ℕ) : ResumeTable :=
  FiniteMap.evict HeldResume.seq cap table

def ctEq (a b : List UInt8) : Bool :=
  a.length == b.length && (List.zipWith (· ^^^ ·) a b).foldl (· ||| ·) 0 == 0

def takeTicket (table : ResumeTable) (key : String × String) (negotiated : ℕ) (nonce : String) :
    Option (HeldResume × ResumeTable) :=
  match table.get key with
  | some h =>
      if h.negotiated = negotiated ∧ ctEq (asBytes nonce) (asBytes h.nonce) then
        some (h, table.remove key)
      else none
  | none => none

lemma foldl_or_eq_zero (l : List UInt8) (acc : UInt8) :
    l.foldl (· ||| ·) acc = 0 ↔ acc = 0 ∧ ∀ x ∈ l, x = 0 := by
  induction l generalizing acc with
  | nil => simp
  | cons x l ih => rw [List.foldl_cons, ih, UInt8.or_eq_zero_iff]; simp [and_assoc]

theorem ctEq_iff (a b : List UInt8) : ctEq a b = true ↔ a = b := by
  induction a generalizing b with
  | nil => cases b <;> simp [ctEq]
  | cons x a ih =>
    cases b with
    | nil => simp [ctEq]
    | cons y b =>
      have h := ih b
      simp only [ctEq, Bool.and_eq_true, beq_iff_eq, foldl_or_eq_zero, List.length_cons] at h ⊢
      simp only [List.zipWith_cons_cons, List.mem_cons, forall_eq_or_imp, UInt8.xor_eq_zero_iff,
        List.cons.injEq, Nat.add_right_cancel_iff, ← h]
      tauto

lemma takeTicket_eq_some {table rest : ResumeTable} {key : String × String} {n : ℕ}
    {nonce : String} {h : HeldResume} :
    takeTicket table key n nonce = some (h, rest) ↔
      table.get key = some h ∧ h.negotiated = n ∧ h.nonce = nonce ∧ rest = table.remove key := by
  rw [takeTicket]
  cases hg : table.get key with
  | none => simp
  | some g =>
    simp only [ctEq_iff, asBytes_injective.eq_iff, Option.ite_none_right_eq_some, Option.some.injEq,
      Prod.mk.injEq]
    constructor
    · rintro ⟨⟨hn, hc⟩, rfl, rfl⟩; exact ⟨rfl, hn, hc.symm, rfl⟩
    · rintro ⟨rfl, hn, hc, rfl⟩; exact ⟨⟨hn, hc.symm⟩, rfl, rfl⟩

end MediaServo.Server
