import MediaServo.ServerProofs.Steps

/-! The actions of the system by what they run on the server: a relayed message, the cleanup of a
session, the entry of a new one, or a change of the tickets alone. -/

namespace MediaServo.Server

open MediaServo.Foundations MediaServo.Common SignalingServer

namespace System

def ending (sys : System) (i : ℕ) : Option (String × String) :=
  match sys.live i with
  | some c => if (sys.server.heldSeq c).isNone then some (c.peerId, c.roomId) else none
  | none => none

def disconnecting (sys : System) : Action → Option (String × String)
  | .close i => sys.ending i
  | .message i (.roomLeave _ _) _ => sys.ending i
  | .expire i =>
      match sys.holds[i]? with
      | some h => if sys.server.Effective h then some (h.peerId, h.roomId) else none
      | none => none
  | .join q _ =>
      match sys.server.resumeHit q with
      | some _ => none
      | none => (sys.server.resumeTable.get q.key).map (fun h => (h.peerId, q.roomId))
  | _ => none

end System

def Retabled (s t : SignalingServer) : Prop :=
  ∃ table seq log, t = { s with resumeTable := table, resumeSeq := seq, sent := log }

lemma Retabled.refl (s : SignalingServer) : Retabled s s := ⟨s.resumeTable, s.resumeSeq, s.sent, rfl⟩

def Cleared (sys : System) (a : Action) (m : SignalingServer) : Prop :=
  (sys.disconnecting a = none ∧ m = sys.server) ∨
    ∃ x r s, sys.disconnecting a = some (x, r) ∧ Retabled sys.server s ∧ m = s.disconnectSession x r

inductive ServerStep (sys : System) : Action → SignalingServer → Prop
  | retabled {a : Action} {t : SignalingServer} (none : sys.disconnecting a = none)
      (same : Retabled sys.server t) : ServerStep sys a t
  | relayed {i : ℕ} {msg : SignalingMessage} {w : Worker} {c : Session} (live : sys.live i = some c)
      (goesOn : (sys.server.relayMessage c msg w).ended = false) :
      ServerStep sys (.message i msg w) (sys.server.relayMessage c msg w).server
  | departed {a : Action} {x r : String} {s : SignalingServer}
      (some : sys.disconnecting a = some (x, r)) (same : Retabled sys.server s) :
      ServerStep sys a (s.disconnectSession x r)
  | entered {q : JoinRequest} {nonce : String} {m u t : SignalingServer}
      (cleared : Cleared sys (.join q nonce) m) (passed : m.gateDenied q q.peerId = none)
      (entered : m.enter q = .ok u) (same : Retabled u t) : ServerStep sys (.join q nonce) t
  | kicked (p : String) : ServerStep sys (.kickPeer p) (sys.server.kickPeer p)
  | deleted (r : String) : ServerStep sys (.removeRoom r) (sys.server.removeRoom r)

variable {sys : System}

lemma ackJoin_retabled (s : SignalingServer) (q : JoinRequest) (peerId nonce : String) :
    Retabled s (s.ackJoin q peerId nonce).server := by
  rw [ackJoin, issueTicket]
  split_ifs
  · exact ⟨_, _, s.sent, rfl⟩
  · exact Retabled.refl s

lemma close_server {a : Action} {t : SignalingServer} {i : ℕ}
    (hd : sys.disconnecting a = sys.ending i) (ht : Retabled sys.server t)
    (htable : t.resumeTable = sys.server.resumeTable) :
    ServerStep sys a (System.close { sys with server := t } i).server := by
  have hlive : System.live { sys with server := t } i = sys.live i := rfl
  rw [System.close, hlive]
  rw [System.ending] at hd
  cases hl : sys.live i with
  | none =>
    simp only [hl] at hd
    exact .retabled hd ht
  | some c =>
    have hheld : t.heldSeq c = sys.server.heldSeq c := by rw [heldSeq, heldSeq, htable]
    simp only [hl] at hd
    dsimp only
    rw [hheld]
    cases hs : sys.server.heldSeq c with
    | some n =>
      rw [hs] at hd
      exact .retabled hd ht
    | none =>
      rw [hs] at hd
      exact .departed hd ht

lemma disconnecting_miss {q : JoinRequest} {nonce : String} (hmiss : ∀ h, ¬Hit sys.server q h) :
    sys.disconnecting (.join q nonce) =
      (sys.server.resumeTable.get q.key).map (fun h => (h.peerId, q.roomId)) := by
  have hnone : sys.server.resumeHit q = none := by
    cases hh : sys.server.resumeHit q with
    | none => rfl
    | some hit => exact absurd (resumeHit_eq_some.1 hh).1 (hmiss _)
  simp only [System.disconnecting, hnone]

lemma takeover_cleared {q : JoinRequest} {nonce : String} (hmiss : ∀ h, ¬Hit sys.server q h) :
    Cleared sys (.join q nonce) (sys.server.takeover q) := by
  have hd : sys.disconnecting (.join q nonce) = _ := disconnecting_miss hmiss
  rw [takeover]
  split
  · rename_i h hk
    rw [hk] at hd
    exact Or.inr ⟨_, _, _, hd, ⟨_, _, _, rfl⟩, rfl⟩
  · rename_i hk
    rw [hk] at hd
    exact Or.inl ⟨hd, rfl⟩

lemma Cleared.step {a : Action} {m : SignalingServer} (h : Cleared sys a m) : ServerStep sys a m := by
  obtain ⟨hd, rfl⟩ | ⟨x, r, s, hd, hs, rfl⟩ := h
  · exact .retabled hd (Retabled.refl _)
  · exact .departed hd hs

lemma join_serverStep (q : JoinRequest) (nonce : String) :
    ServerStep sys (.join q nonce) (sys.server.roomJoin q nonce).server := by
  have hhit : ∀ {h}, Hit sys.server q h → sys.disconnecting (.join q nonce) = none := by
    intro h hh
    simp only [System.disconnecting, resumeHit_eq_some.2 ⟨hh, rfl⟩]
  have hs := sys.server.roomJoin_step q nonce
  generalize sys.server.roomJoin q nonce = j at hs
  cases hs with
  | burned hit => exact .retabled (hhit hit) ⟨_, _, _, rfl⟩
  | resumed hit =>
    obtain ⟨table, seq, log, h⟩ := ackJoin_retabled (sys.server.burn q) q _ nonce
    exact .retabled (hhit hit) ⟨table, seq, log, h⟩
  | denied miss => exact (takeover_cleared miss).step
  | full miss => exact (takeover_cleared miss).step
  | joined miss passed he => exact .entered (takeover_cleared miss) passed he (ackJoin_retabled _ _ _ _)

theorem serverStep_step (sys : System) (a : Action) : ServerStep sys a (sys.step a).server := by
  cases a with
  | join q nonce =>
    have h : ServerStep sys (.join q nonce) (sys.server.roomJoin q nonce).server :=
      join_serverStep q nonce
    rw [System.step, System.join]
    split <;> exact h
  | message i msg w =>
    rw [System.step, System.message]
    cases hl : sys.live i with
    | none =>
      refine .retabled ?_ (Retabled.refl _)
      cases msg <;> simp only [System.disconnecting]
      rw [System.ending, hl]
    | some c =>
      dsimp only
      split_ifs with he
      · obtain ⟨r, p, rfl⟩ := relayMessage_ended he
        exact close_server rfl ⟨_, _, _, rfl⟩ rfl
      · exact .relayed hl (by simpa using he)
  | close i => exact close_server rfl (Retabled.refl _) rfl
  | expire i =>
    rw [System.step, System.expire]
    cases hh : sys.holds[i]? with
    | none =>
      refine .retabled ?_ (Retabled.refl _)
      simp only [System.disconnecting, hh]
    | some h =>
      dsimp only
      split_ifs with he
      · refine .departed ?_ ⟨_, _, _, rfl⟩
        simp only [System.disconnecting, hh, if_pos he]
      · refine .retabled ?_ (Retabled.refl _)
        simp only [System.disconnecting, hh, if_neg he]
  | kickPeer p => exact .kicked p
  | removeRoom r => exact .deleted r

end MediaServo.Server
