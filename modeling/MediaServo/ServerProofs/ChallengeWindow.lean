import MediaServo.Server.ChallengeWindow
import MediaServo.ServerProofs.DeviceIdentity
import MediaServo.ServerProofs.TextFrames

/-! What comes of the frames that a connection reads while a device challenge is out. The relay loop
is given the deferred messages first, in their order, and then what it reads itself. -/

namespace MediaServo.Server

open MediaServo.Foundations MediaServo.Common

inductive Place
  | before
  | window
  | loop
  deriving DecidableEq

structure Check where
  pending : PendingAuth
  vk : Option String
  sig : String
  deriving DecidableEq

def Check.Passes (crypto : Crypto) (x : Check) : Prop :=
  ∃ vk, x.vk = some vk ∧
    crypto.verifySignature vk x.pending.nonce x.pending.deviceId x.pending.roomId x.sig = .ok ()

variable (k : Handler)

def Handler.answer : WsFrame → Option String
  | .text t =>
      match k.reader.message t with
      | some (.deviceAuthResponse _ sig) => some sig
      | _ => none
  | _ => none

def Handler.deferral : WsFrame → Option SignalingMessage
  | .text t =>
      match k.reader.message t with
      | some (.deviceAuthResponse _ _) => none
      | m => m
  | _ => none

namespace Connection

def reading (x : Connection) : Option (Place × WsFrame) :=
  match x.stage with
  | .entering c =>
      match c.phase with
      | .waiting => x.inbox.head?.map (.before, ·)
      | .challenged _ => x.inbox.head?.map (.window, ·)
      | _ => none
  | .relaying _ [] => x.inbox.head?.map (.loop, ·)
  | _ => none

def checking (x : Connection) (w : World) : Option Check :=
  match x.stage with
  | .entering c =>
      match c.phase with
      | .challenged pa => do
          let f ← x.inbox.head?
          let sig ← k.answer f
          pure ⟨pa, AuthServer.checkVk w.auth.registry pa, sig⟩
      | _ => none
  | _ => none

def given (x : Connection) : Option (Session × String) :=
  match x.stage with
  | .relaying c (m :: _) => some (c, k.write m)
  | .relaying c [] =>
      match x.inbox with
      | .text t :: _ => some (c, t)
      | _ => none
  | _ => none

def handling (x : Connection) (w : World) (d : Draw) : Option String :=
  match x.given k with
  | some (c, t) => (w.relay k c t d).map fun _ => t
  | none => none

end Connection

/-- What a connection has read, which checks it has made and which texts its relay loop has
handled. -/
structure Log where
  reads : List (Place × WsFrame)
  checks : List Check
  handled : List String

namespace Log

def turn (l : Log) (s : Served) (d : Draw) : Log where
  reads := l.reads ++ s.conn.reading.toList
  checks := l.checks ++ (s.conn.checking k s.world).toList
  handled := l.handled ++ (s.conn.handling k s.world d).toList

def deferrals (l : Log) : List SignalingMessage :=
  l.reads.filterMap fun x => if x.1 = .window then k.deferral x.2 else none

def later (l : Log) : List String :=
  l.reads.filterMap fun x =>
    match x with
    | (.loop, .text s) => some s
    | _ => none

def Plain (l : Log) : Prop := (∀ f, (Place.window, f) ∉ l.reads) ∧ l.checks = []

def Proved (l : Log) : Prop := l.Plain ∨ ∃ x, l.checks = [x] ∧ x.Passes k.crypto

end Log

structure Watched extends Served, Log where
  arrived : List WsFrame

namespace Watched

def start (w : World) (peerId : String) (account : Option AccountIdentity) : Watched :=
  { Served.start w peerId account with reads := [], checks := [], handled := [], arrived := [] }

def step (t : Watched) (a : WindowAction) : Watched where
  toServed := t.toServed.step k a
  toLog :=
    match a with
    | .turn d => t.toLog.turn k t.toServed d
    | _ => t.toLog
  arrived :=
    match a with
    | .arrive f => t.arrived ++ [f]
    | _ => t.arrived

end Watched

def AuthPhase.past : AuthPhase → Bool
  | .verified _ | .lostRace _ | .enrolled _ | .joining _ => true
  | _ => false

section Entering

variable {k} {c : AuthConn} {r : DeviceRegistry} {pa : PendingAuth} {nonce : List UInt8}
  {f : WsFrame}

open AuthServer

lemma challenge_deferred (entry : Option Entry) (nc room d vk : String) (role : PeerRole) :
    (c.challenge entry nc room d vk role).deferred = c.deferred := by
  rcases entry with _ | _ | _ <;> rfl

lemma roomJoin_deferred {room : String} {role : PeerRole} {d secret vk : Option String} :
    (roomJoin k.crypto r c nonce room role d secret vk).deferred = c.deferred := by
  rw [AuthServer.roomJoin.eq_def]
  split
  · rfl
  · split
    · split
      · rfl
      · split
        · rfl
        · exact challenge_deferred _ _ _ _ _ _
    · split <;> rfl

lemma take_waiting (hp : c.phase = .waiting) : (c.take k r nonce f).deferred = c.deferred := by
  rw [AuthConn.take.eq_def]
  split
  · split
    · rename_i msg _
      rw [receive.eq_def, hp]
      split
      · contradiction
      · contradiction
      · exact roomJoin_deferred
      · rfl
    · rfl
  · rfl
  · rfl
  · rfl

lemma answer_window (c : AuthConn) (r : DeviceRegistry) (pa : PendingAuth) (sig : String) :
    (answer k.crypto r c pa sig).deferred = c.deferred ∧
      ((answer k.crypto r c pa sig).phase = .closed ∨
        (answer k.crypto r c pa sig).phase.past = true ∧
          (Check.mk pa (checkVk r pa) sig).Passes k.crypto) := by
  rw [answer]
  split
  · exact ⟨rfl, Or.inl rfl⟩
  · rename_i vk hvk
    split
    · exact ⟨rfl, Or.inl rfl⟩
    · rename_i hok
      have hpass : (Check.mk pa (checkVk r pa) sig).Passes k.crypto := ⟨vk, hvk, hok⟩
      split
      · exact ⟨rfl, Or.inr ⟨rfl, hpass⟩⟩
      · exact ⟨rfl, Or.inr ⟨rfl, hpass⟩⟩

lemma settle_window {s : AuthServer} (h : c.phase.past = true) :
    (c.settle k s).2.deferred = c.deferred ∧
      ((c.settle k s).2.phase = .closed ∨ (c.settle k s).2.phase.past = true) := by
  rw [AuthConn.settle]
  split
  · rename_i hp
    rw [policyGate, hp]
    dsimp only
    split_ifs
    · split <;> exact ⟨rfl, by simp [AuthPhase.past, AuthConn.badSecret, AuthConn.refuse, AuthConn.close]⟩
    · exact ⟨rfl, Or.inl rfl⟩
  · rename_i hp
    rw [recheck, hp]
    dsimp only
    split
    · split_ifs
      · exact ⟨rfl, Or.inr rfl⟩
      · exact ⟨rfl, Or.inl rfl⟩
    · exact ⟨rfl, Or.inl rfl⟩
  · rename_i hp
    rw [clearPending, hp]
    exact ⟨rfl, Or.inr rfl⟩
  · exact ⟨rfl, Or.inr h⟩

lemma take_answer {sig : String} (hp : c.phase = .challenged pa) (hf : k.answer f = some sig) :
    c.take k r nonce f = answer k.crypto r c pa sig := by
  rw [Handler.answer.eq_def] at hf
  split at hf
  · rename_i t
    split at hf
    · rename_i hm
      cases hf
      simp [AuthConn.take, hm, receive, hp]
    · cases hf
  · cases hf

lemma take_deferral {m : SignalingMessage} (hp : c.phase = .challenged pa)
    (hf : k.deferral f = some m) :
    c.take k r nonce f = if maxDeferredAuthMsgs ≤ c.deferred.length then c.close
      else { c with deferred := c.deferred ++ [m] } := by
  rw [Handler.deferral.eq_def] at hf
  split at hf
  · rename_i t
    split at hf
    · cases hf
    · rename_i hno
      rw [AuthConn.take, hf]
      simp only [receive.eq_def, hp]
      split
      · cases hno _ _ hf
      · rfl
      · contradiction
      · rename_i hother _ _
        exact (hother pa rfl).elim
  · cases hf

lemma take_other (ha : k.answer f = none)
    (hd : k.deferral f = none) : c.take k r nonce f = c ∨ c.take k r nonce f = c.close := by
  cases f with
  | text t =>
    cases hm : k.reader.message t with
    | none => exact Or.inl (by simp [AuthConn.take, hm])
    | some msg =>
      simp only [Handler.answer, hm] at ha
      simp only [Handler.deferral, hm] at hd
      split at ha
      · cases ha
      · rename_i hno
        split at hd
        · rename_i heq
          exact (hno _ _ heq).elim
        · cases hd
  | close => exact Or.inr rfl
  | gone => exact Or.inr rfl
  | _ => exact Or.inl rfl

lemma deferral_of_answer {sig : String} (h : k.answer f = some sig) : k.deferral f = none := by
  rw [Handler.answer.eq_def] at h
  split at h
  · split at h
    · rename_i hm
      simp [Handler.deferral, hm]
    · cases h
  · cases h

end Entering

namespace Log

/-- A connection on its way to the relay loop: nothing is handled, and what waits is what it has
read in the window. -/
structure Entering (l : Log) (c : AuthConn) : Prop where
  unhandled : l.handled = []
  deferred : c.deferred = l.deferrals k
  few : c.deferred.length ≤ maxDeferredAuthMsgs
  noLater : l.later = []
  checks : l.checks.length ≤ 1
  waiting : c.phase = .waiting → l.Plain
  challenged : ∀ pa, c.phase = .challenged pa → l.checks = []
  past : c.phase.past = true → l.Proved k

structure Relaying (l : Log) (rest : List SignalingMessage) : Prop where
  order : l.handled ++ rest.map k.write = (l.deferrals k).map k.write ++ l.later
  few : (l.deferrals k).length ≤ maxDeferredAuthMsgs
  proved : l.Proved k

structure Ended (l : Log) : Prop where
  order : l.handled <+: (l.deferrals k).map k.write ++ l.later
  checks : l.checks.length ≤ 1
  proved : l.handled ≠ [] → (l.deferrals k).length ≤ maxDeferredAuthMsgs ∧ l.Proved k

def Inv (l : Log) : Stage → Prop
  | .entering c => c.phase ≠ .closed ∧ l.Entering k c
  | .relaying _ rest => l.Relaying k rest
  | .ended => l.Ended k

end Log

section Turns

variable {k} {l : Log} {s : Served} {c : AuthConn} {d : Draw} {f : WsFrame}

lemma Log.ended_of_unhandled (hh : l.handled = []) (hc : l.checks.length ≤ 1) : l.Ended k :=
  ⟨by rw [hh]; exact List.nil_prefix, hc, fun h => (h hh).elim⟩

lemma Log.Proved.checks_le (h : l.Proved k) : l.checks.length ≤ 1 := by
  rcases h with ⟨-, h⟩ | ⟨x, h, -⟩ <;> simp [h]

lemma Log.Relaying.ended {rest : List SignalingMessage} (h : l.Relaying k rest) : l.Ended k :=
  ⟨⟨_, h.order⟩, h.proved.checks_le, fun _ => ⟨h.few, h.proved⟩⟩

lemma Log.inv_ofAuth (hh : l.handled = []) (hc : l.checks.length ≤ 1)
    (h : c.phase ≠ .closed → l.Entering k c) : l.Inv k (.ofAuth c) := by
  by_cases hp : c.phase = .closed
  · simp only [Stage.ofAuth, hp]
    exact ended_of_unhandled hh hc
  · have hstage : Stage.ofAuth c = .entering c := by
      rw [Stage.ofAuth]
      split
      · contradiction
      · rfl
    rw [hstage]
    exact ⟨hp, h hp⟩

lemma Log.inv_relayed {w : World} {x : Session} {t : String} {inbox : List WsFrame}
    {rest : List SignalingMessage}
    (ho : l.handled ++ t :: rest.map k.write = (l.deferrals k).map k.write ++ l.later)
    (hf : (l.deferrals k).length ≤ maxDeferredAuthMsgs) (hp : l.Proved k) :
    Log.Inv k { l with handled := l.handled ++ ((w.relay k x t d).map fun _ => t).toList }
      (w.relayed k x t d inbox rest).2.stage := by
  have hnext : Log.Relaying k { l with handled := l.handled ++ [t] } rest := by
    refine ⟨?_, hf, hp⟩
    rw [List.append_assoc]
    exact ho
  rw [World.relayed]
  cases hr : w.relay k x t d with
  | none =>
    refine ⟨?_, hp.checks_le, fun _ => ⟨hf, hp⟩⟩
    simp only [Option.map_none, Option.toList_none, List.append_nil]
    exact ⟨_, ho⟩
  | some r =>
    obtain ⟨w', ended⟩ := r
    cases ended with
    | false => exact hnext
    | true => exact hnext.ended

lemma turn_idle (hs : s.conn.stage = .entering c) (hi : s.conn.inbox = []) : l.turn k s d = l := by
  have hread : s.conn.reading = none := by
    simp only [Connection.reading, hs, hi]
    split <;> rfl
  have hcheck : s.conn.checking k s.world = none := by
    simp only [Connection.checking, hs, hi]
    split <;> rfl
  have hgiven : s.conn.given k = none := by simp [Connection.given, hs]
  simp [Log.turn, Connection.handling, hread, hcheck, hgiven]

lemma inv_waiting (hs : s.conn.stage = .entering c) (hp : c.phase = .waiting)
    (h : l.Entering k c) :
    (l.turn k s d).Inv k (s.conn.enter k s.world c d).2.stage := by
  rw [Connection.enter, hp]
  cases hi : s.conn.inbox with
  | nil =>
    simp only [turn_idle hs hi, hs]
    exact ⟨by simp [hp], h⟩
  | cons f rest =>
    have hlog : l.turn k s d = { l with reads := l.reads ++ [(.before, f)] } := by
      simp [Log.turn, Connection.reading, Connection.checking, Connection.handling,
        Connection.given, hs, hp, hi]
    have hdef : (c.take k s.world.auth.registry d.nonce f).deferred = c.deferred := take_waiting hp
    have hplain : Log.Plain { l with reads := l.reads ++ [(.before, f)] } := by
      obtain ⟨hno, hchecks⟩ := h.waiting hp
      exact ⟨by simpa using hno, hchecks⟩
    rw [hlog]
    refine Log.inv_ofAuth h.unhandled h.checks fun _ => ⟨h.unhandled, ?_, ?_, ?_, h.checks,
      fun _ => hplain, fun _ _ => hplain.2, fun _ => Or.inl hplain⟩
    · rw [hdef, h.deferred]
      simp [Log.deferrals]
    · rw [hdef]
      exact h.few
    · simpa [Log.later] using h.noLater

lemma inv_challenged {pa : PendingAuth} (hs : s.conn.stage = .entering c)
    (hp : c.phase = .challenged pa) (h : l.Entering k c) :
    (l.turn k s d).Inv k (s.conn.enter k s.world c d).2.stage := by
  rw [Connection.enter, hp]
  cases hi : s.conn.inbox with
  | nil =>
    simp only [turn_idle hs hi, hs]
    exact ⟨by simp [hp], h⟩
  | cons f rest =>
    have hnone := h.challenged pa hp
    have hlater : Log.later { l with reads := l.reads ++ [(.window, f)] } = [] := by
      simpa [Log.later] using h.noLater
    dsimp only
    cases ha : k.answer f with
    | some sig =>
      have hlog : l.turn k s d =
          { l with
            reads := l.reads ++ [(.window, f)]
            checks := [⟨pa, AuthServer.checkVk s.world.auth.registry pa, sig⟩] } := by
        simp [Log.turn, Connection.reading, Connection.checking, Connection.handling,
          Connection.given, hs, hp, hi, ha, hnone]
      rw [hlog, take_answer hp ha]
      obtain ⟨hdef, hphase⟩ := answer_window (k := k) c s.world.auth.registry pa sig
      refine Log.inv_ofAuth h.unhandled (by simp) fun hopen => ?_
      obtain ⟨hpast, hpass⟩ := hphase.resolve_left hopen
      refine ⟨h.unhandled, ?_, by rw [hdef]; exact h.few, hlater, by simp,
        fun hw => by simp [hw, AuthPhase.past] at hpast,
        fun pa hw => by simp [hw, AuthPhase.past] at hpast, fun _ => Or.inr ⟨_, rfl, hpass⟩⟩
      rw [hdef, h.deferred]
      simp [Log.deferrals, deferral_of_answer ha]
    | none =>
      have hlog : l.turn k s d = { l with reads := l.reads ++ [(.window, f)] } := by
        simp [Log.turn, Connection.reading, Connection.checking, Connection.handling,
          Connection.given, hs, hp, hi, ha]
      rw [hlog]
      refine Log.inv_ofAuth h.unhandled h.checks fun hopen => ?_
      have hwait : ∃ ds, c.take k s.world.auth.registry d.nonce f = { c with deferred := ds } ∧
          ds = Log.deferrals k { l with reads := l.reads ++ [(.window, f)] } ∧
          ds.length ≤ maxDeferredAuthMsgs := by
        cases hd : k.deferral f with
        | none =>
          refine ⟨c.deferred, (take_other ha hd).resolve_right fun hclose => ?_, ?_, h.few⟩
          · rw [hclose] at hopen
            exact hopen rfl
          · rw [h.deferred]
            simp [Log.deferrals, hd]
        | some m =>
          rw [take_deferral hp hd] at hopen ⊢
          split_ifs at hopen ⊢ with hfull
          · exact (hopen rfl).elim
          · refine ⟨_, rfl, ?_, ?_⟩
            · rw [h.deferred]
              simp [Log.deferrals, hd]
            · rw [List.length_append, List.length_singleton]
              omega
      obtain ⟨ds, htake, hds, hfew⟩ := hwait
      rw [htake]
      exact ⟨h.unhandled, hds, hfew, hlater, h.checks, fun hw => by simp [hp] at hw,
        fun _ _ => hnone, fun hw => by simp [hp, AuthPhase.past] at hw⟩

lemma inv_past (hs : s.conn.stage = .entering c) (hp : c.phase.past = true)
    (h : l.Entering k c) :
    (l.turn k s d).Inv k (s.conn.enter k s.world c d).2.stage := by
  have hlog : l.turn k s d = l := by
    cases hphase : c.phase with
    | waiting => simp [hphase, AuthPhase.past] at hp
    | challenged pa => simp [hphase, AuthPhase.past] at hp
    | _ =>
      simp [Log.turn, Connection.reading, Connection.checking, Connection.handling,
        Connection.given, hs, hphase]
  rw [hlog, Connection.enter]
  split
  · rename_i hphase
    simp [hphase, AuthPhase.past] at hp
  · rename_i hphase
    simp [hphase, AuthPhase.past] at hp
  · dsimp only
    cases (s.world.server.roomJoin _ d.ticket).session with
    | none => exact Log.ended_of_unhandled h.unhandled h.checks
    | some x =>
      refine ⟨?_, h.deferred ▸ h.few, h.past hp⟩
      rw [h.unhandled, h.noLater, h.deferred]
      simp
  · obtain ⟨hdef, hphase⟩ := settle_window (k := k) (s := s.world.auth) hp
    refine Log.inv_ofAuth h.unhandled h.checks fun hopen => ?_
    have hpast := hphase.resolve_left hopen
    exact ⟨h.unhandled, hdef.trans h.deferred, by rw [hdef]; exact h.few, h.noLater, h.checks,
      fun hw => by simp [hw, AuthPhase.past] at hpast,
      fun pa hw => by simp [hw, AuthPhase.past] at hpast, fun _ => h.past hp⟩

lemma inv_loop {x : Session} {rest : List SignalingMessage}
    (hs : s.conn.stage = .relaying x rest) (h : l.Relaying k rest) :
    (l.turn k s d).Inv k (s.conn.loop k s.world x rest d).2.stage := by
  have hcheck : s.conn.checking k s.world = none := by simp [Connection.checking, hs]
  cases rest with
  | cons m rest =>
    have hlog : l.turn k s d = { l with
        handled := l.handled ++ ((s.world.relay k x (k.write m) d).map fun _ => k.write m).toList } := by
      simp [Log.turn, hcheck, Connection.reading, Connection.handling, Connection.given, hs]
    rw [hlog]
    exact Log.inv_relayed h.order h.few h.proved
  | nil =>
    rw [Connection.loop.eq_def]
    dsimp only
    cases hi : s.conn.inbox with
    | nil =>
      have hlog : l.turn k s d = l := by
        simp [Log.turn, hcheck, Connection.reading, Connection.handling, Connection.given, hs, hi]
      simp only [hlog, hs]
      exact h
    | cons f rest =>
      have hproved : Log.Proved k { l with reads := l.reads ++ [(.loop, f)] } := by
        refine h.proved.imp_left fun hplain => ⟨?_, hplain.2⟩
        simpa using hplain.1
      have hdef : Log.deferrals k { l with reads := l.reads ++ [(.loop, f)] } = l.deferrals k := by
        simp [Log.deferrals]
      by_cases ht : ∃ t, f = .text t
      · obtain ⟨t, rfl⟩ := ht
        have hlog : l.turn k s d = { l with
            reads := l.reads ++ [(.loop, .text t)]
            handled := l.handled ++ ((s.world.relay k x t d).map fun _ => t).toList } := by
          simp [Log.turn, hcheck, Connection.reading, Connection.handling, Connection.given, hs, hi]
        have hlater : Log.later { l with reads := l.reads ++ [(.loop, .text t)] } =
            l.later ++ [t] := by
          simp [Log.later]
        rw [hlog]
        refine Log.inv_relayed (l := { l with reads := l.reads ++ [(.loop, .text t)] }) ?_
          (hdef ▸ h.few) hproved
        rw [hdef, hlater, ← List.append_assoc, ← h.order]
        simp
      · have hno : ∀ t, f ≠ .text t := fun t hf => ht ⟨t, hf⟩
        have hgiven : s.conn.given k = none := by
          simp only [Connection.given, hs, hi]
          split
          · rename_i heq
            cases heq
            exact (hno _ rfl).elim
          · rfl
        have hlog : l.turn k s d = { l with reads := l.reads ++ [(.loop, f)] } := by
          simp [Log.turn, hcheck, Connection.reading, Connection.handling, hgiven, hs, hi]
        have hnext : Log.Relaying k { l with reads := l.reads ++ [(.loop, f)] } [] := by
          refine ⟨?_, hdef ▸ h.few, hproved⟩
          rw [hdef, h.order, Log.later, Log.later, List.filterMap_append]
          cases f with
          | text t => exact (hno t rfl).elim
          | _ => simp
        rw [hlog]
        cases f with
        | text t => exact (hno t rfl).elim
        | binary => exact hnext
        | ping => exact hnext
        | pong => exact hnext
        | _ => exact hnext.ended

lemma inv_turn (h : l.Inv k s.conn.stage) :
    (l.turn k s d).Inv k (s.conn.turn k s.world d).2.stage := by
  rw [Connection.turn]
  cases hs : s.conn.stage with
  | entering c =>
    rw [hs] at h
    obtain ⟨hopen, hlog⟩ := h
    cases hp : c.phase with
    | waiting => exact inv_waiting hs hp hlog
    | challenged pa => exact inv_challenged hs hp hlog
    | closed => exact (hopen hp).elim
    | _ => exact inv_past hs (by rw [hp]; rfl) hlog
  | relaying x rest =>
    rw [hs] at h
    exact inv_loop hs h
  | ended =>
    have hlog : l.turn k s d = l := by
      simp [Log.turn, Connection.checking, Connection.reading, Connection.handling,
        Connection.given, hs]
    rw [hlog, hs]
    rwa [hs] at h

lemma elapsed_eq (h : (AuthServer.elapsed c).phase ≠ .closed) : AuthServer.elapsed c = c := by
  rw [AuthServer.elapsed] at h ⊢
  split
  · rename_i hp
    simp [hp, AuthConn.badSecret, AuthConn.refuse, AuthConn.close] at h
  · rename_i hp
    simp [hp, AuthConn.close] at h
  · rfl

lemma Log.Inv.ended {st : Stage} (h : l.Inv k st) : l.Inv k .ended := by
  cases st with
  | entering c => exact Log.ended_of_unhandled h.2.unhandled h.2.checks
  | relaying x rest => exact Log.Relaying.ended h
  | ended => exact h

lemma inv_timeout (h : l.Inv k s.conn.stage) : l.Inv k s.conn.timeout.stage := by
  rw [Connection.timeout]
  split
  · rename_i hs
    rw [hs] at h
    refine Log.inv_ofAuth h.2.unhandled h.2.checks fun hopen => ?_
    rw [elapsed_eq hopen]
    exact h.2
  · exact h

lemma timeout_inbox {x : Connection} : x.timeout.inbox = x.inbox := by
  rw [Connection.timeout]
  split <;> rfl

lemma heartbeat_inbox {x : Connection} : x.heartbeat.inbox = x.inbox := by
  rw [Connection.heartbeat]
  split <;> rfl

lemma inv_heartbeat (h : l.Inv k s.conn.stage) : l.Inv k s.conn.heartbeat.stage := by
  rw [Connection.heartbeat]
  split
  · exact h.ended
  · exact h

lemma relayed_inbox {w : World} {x : Session} {t : String} {inbox : List WsFrame}
    {rest : List SignalingMessage} : (w.relayed k x t d inbox rest).2.inbox = inbox := by
  rw [World.relayed]
  split <;> rfl

lemma turn_inbox : s.conn.inbox =
    s.conn.reading.toList.map Prod.snd ++ (s.conn.turn k s.world d).2.inbox := by
  rw [Connection.turn]
  cases hs : s.conn.stage with
  | entering c =>
    simp only [Connection.reading, Connection.enter, hs]
    cases c.phase with
    | waiting => cases hi : s.conn.inbox <;> simp [hi]
    | challenged pa => cases hi : s.conn.inbox <;> simp [hi]
    | _ => simp
  | relaying x rest =>
    cases rest with
    | cons m rest => simp [Connection.reading, Connection.loop, relayed_inbox, hs]
    | nil =>
      cases hi : s.conn.inbox with
      | nil => simp [Connection.reading, Connection.loop, hs, hi]
      | cons f rest =>
        simp only [Connection.reading, Connection.loop, hs, hi]
        cases f <;> simp [relayed_inbox]
  | ended => simp [Connection.reading, hs]

end Turns

namespace Watched

variable {k} {t : Watched}

structure Inv (k : Handler) (t : Watched) : Prop where
  reads : t.arrived = t.reads.map Prod.snd ++ t.conn.inbox
  stage : t.toLog.Inv k t.conn.stage

lemma Inv.step (h : Inv k t) (a : WindowAction) : Inv k (t.step k a) := by
  obtain ⟨hr, hs⟩ := h
  cases a with
  | arrive f =>
    refine ⟨?_, hs⟩
    simp [Watched.step, Served.step, hr]
  | turn d =>
    refine ⟨?_, inv_turn hs⟩
    have hinbox := turn_inbox (k := k) (s := t.toServed) (d := d)
    rw [hinbox] at hr
    simp [Watched.step, Served.step, Log.turn, hr]
  | timeout =>
    refine ⟨?_, inv_timeout hs⟩
    exact hr.trans (by rw [← timeout_inbox (x := t.conn)]; rfl)
  | heartbeat =>
    refine ⟨?_, inv_heartbeat hs⟩
    exact hr.trans (by rw [← heartbeat_inbox (x := t.conn)]; rfl)
  | shutdown => exact ⟨hr, hs.ended⟩
  | others w => exact ⟨hr, hs⟩

lemma inv_start (w : World) (peerId : String) (account : Option AccountIdentity) :
    Inv k (start w peerId account) where
  reads := rfl
  stage := ⟨by simp, rfl, rfl, by simp, rfl, by simp [start],
    fun _ => ⟨by simp [start], rfl⟩, fun _ _ => rfl, by simp [AuthPhase.past]⟩

lemma Inv.order (h : Inv k t) : t.handled <+: (t.deferrals k).map k.write ++ t.later :=
  h.stage.ended.order

lemma Inv.checks (h : Inv k t) : t.checks.length ≤ 1 := h.stage.ended.checks

lemma Inv.answered (h : Inv k t) (hw : ∃ f, (Place.window, f) ∈ t.reads) (hh : t.handled ≠ []) :
    ∃ x, t.checks = [x] ∧ x.Passes k.crypto := by
  obtain ⟨f, hf⟩ := hw
  exact (h.stage.ended.proved hh).2.resolve_left fun hplain => hplain.1 f hf

lemma Inv.overflow (h : Inv k t) (hmany : maxDeferredAuthMsgs < (t.deferrals k).length) :
    t.conn.stage = .ended ∧ t.handled = [] := by
  constructor
  · have hstage := h.stage
    cases hs : t.conn.stage with
    | entering c =>
      rw [hs] at hstage
      have hfew := hstage.2.few
      rw [hstage.2.deferred] at hfew
      omega
    | relaying c rest =>
      rw [hs] at hstage
      have hfew := Log.Relaying.few hstage
      omega
    | ended => rfl
  · by_contra hh
    have hfew := (h.stage.ended.proved hh).1
    omega

end Watched

lemma window_quiet {k : Handler} {s : Served} {c : AuthConn} {pa : PendingAuth} {f : WsFrame}
    (hs : s.conn.stage = .entering c) (hp : c.phase = .challenged pa)
    (hi : s.conn.inbox.head? = some f) (ha : k.answer f = none) (d : Draw) :
    (s.step k (.turn d)).world = s.world ∧
      ((s.step k (.turn d)).conn.stage = .ended ∨
        (s.step k (.turn d)).conn.stage =
          .entering { c with deferred := c.deferred ++ (k.deferral f).toList }) := by
  obtain ⟨rest, hinbox⟩ : ∃ rest, s.conn.inbox = f :: rest := List.head?_eq_some_iff.mp hi
  have hturn : s.conn.turn k s.world d =
      (s.world, ⟨rest, .ofAuth (c.take k s.world.auth.registry d.nonce f)⟩) := by
    simp [Connection.turn, Connection.enter, hs, hp, hinbox]
  have hclose : Stage.ofAuth c.close = .ended := rfl
  have hopen : ∀ ds, Stage.ofAuth { c with deferred := ds } = .entering { c with deferred := ds } := by
    simp [Stage.ofAuth, hp]
  simp only [Served.step, hturn, true_and]
  cases hd : k.deferral f with
  | none =>
    have hother : c.take k s.world.auth.registry d.nonce f = c ∨ _ = c.close := take_other ha hd
    rcases hother with h | h
    · right
      rw [h]
      simpa using hopen c.deferred
    · left
      rw [h, hclose]
  | some m =>
    rw [take_deferral hp hd]
    split_ifs
    · exact Or.inl hclose
    · exact Or.inr (hopen _)

/-- A frame that the server writes as it was read is read as the same message again. -/
def Handler.RoundTrips (k : Handler) : Prop :=
  ∀ text m, k.reader.message text = some m → k.reader.message (k.write m) = some m

lemma message_of_deferral {k : Handler} {f : WsFrame} {m : SignalingMessage}
    (h : k.deferral f = some m) : ∃ text, k.reader.message text = some m := by
  rw [Handler.deferral.eq_def] at h
  split at h
  · split at h
    · cases h
    · exact ⟨_, h⟩
  · cases h

lemma deferrals_read {k : Handler} (h : k.RoundTrips) (l : Log) :
    ((l.deferrals k).map k.write).map k.reader.message = (l.deferrals k).map some := by
  rw [List.map_map]
  refine List.map_congr_left fun m hm => ?_
  obtain ⟨x, -, hx⟩ := List.mem_filterMap.mp hm
  split_ifs at hx
  obtain ⟨text, ht⟩ := message_of_deferral hx
  exact h text m ht

/-- The relay loop handles what has waited, in its order, and then what it reads; a connection with
too much waiting ends, and a challenge is answered once. -/
theorem window_in_order (k : Handler) (w : World) (peerId : String)
    (account : Option AccountIdentity) (acts : List WindowAction) :
    let t := run (Watched.step k) (Watched.start w peerId account) acts
    t.arrived = t.reads.map Prod.snd ++ t.conn.inbox ∧
    (∀ c rest, t.conn.stage = .relaying c rest →
      t.handled ++ rest.map k.write = (t.deferrals k).map k.write ++ t.later) ∧
    t.handled <+: (t.deferrals k).map k.write ++ t.later ∧
    (k.RoundTrips → t.handled.map k.reader.message <+:
      (t.deferrals k).map some ++ t.later.map k.reader.message) ∧
    ((∃ f, (Place.window, f) ∈ t.reads) → t.handled ≠ [] →
      ∃ x, t.checks = [x] ∧ x.Passes k.crypto) ∧
    (∀ c pa f, t.conn.stage = .entering c → c.phase = .challenged pa →
      t.conn.inbox.head? = some f → k.answer f = none → ∀ d,
        (t.step k (.turn d)).world = t.world ∧
        ((t.step k (.turn d)).conn.stage = .ended ∨
          (t.step k (.turn d)).conn.stage =
            .entering { c with deferred := c.deferred ++ (k.deferral f).toList })) ∧
    (maxDeferredAuthMsgs < (t.deferrals k).length → t.conn.stage = .ended ∧ t.handled = []) ∧
    t.checks.length ≤ 1 := by
  intro t
  have h : t.Inv k := run_preserves (Watched.inv_start w peerId account) (fun u a hu => hu.step a) acts
  refine ⟨h.reads, fun c rest hs => ?_, h.order, fun hround => ?_, h.answered,
    fun c pa f hs hp hi ha d => window_quiet hs hp hi ha d, h.overflow, h.checks⟩
  · have hstage := h.stage
    rw [hs] at hstage
    exact hstage.order
  · have hmap := h.order.map k.reader.message
    rwa [List.map_append, deferrals_read hround] at hmap

/-! A device joins, sends a frame that is JSON but no message while its challenge is out, and answers
the challenge. -/

section Raw

open EnrollRace

def joinText : String :=
  "\x7b\"type\":\"room_join\",\"room_id\":\"room-1\",\"peer_role\":\"host\"," ++
    "\"device_id\":\"ms-0a1b2c3d4e5f\",\"device_pubkey\":\"" ++ keyText ++ "\",\"protocol\":3\x7d"

def answerText : String :=
  "\x7b\"type\":\"device_auth_response\",\"room_id\":\"room-1\",\"sig\":\"" ++ sigTextA ++ "\"\x7d"

def rawText : String := "\x7b\"type\":\"frame\"\x7d"

def rawHandler : Handler where
  crypto := raceCrypto
  reader :=
    { message := fun t =>
        if t = joinText then some joinMsg
        else if t = answerText then some (.deviceAuthResponse "room-1" sigTextA)
        else none
      rawFrame := fun t => t = rawText }
  sendMsg := fun m =>
    if m = joinMsg then some joinText
    else if m = .deviceAuthResponse "room-1" sigTextA then some answerText
    else none
  level := .info

def rawWorld : World := ⟨AuthServer.start raceCrypto ∅ raceUuid true, .init, []⟩

def rawTurn : WindowAction := .turn ⟨nonceA, "n1", idleWorker⟩

def rawRun : List WindowAction :=
  [.arrive (.text joinText), rawTurn, .arrive (.text rawText), rawTurn,
    .arrive (.text answerText), rawTurn, rawTurn, rawTurn, rawTurn]

def rawSession : Session := ⟨"p0", "room-1", .host, .device "ms-0a1b2c3d4e5f", 3⟩

def Stage.through : Stage → Option Session
  | .relaying c [] => some c
  | _ => none

lemma stage_of_through {st : Stage} {c : Session} (h : st.through = some c) :
    st = .relaying c [] := by
  rw [Stage.through.eq_def] at h
  split at h
  · cases h
    rfl
  · cases h

/-- The relay loop would pass this frame on; the window drops it. -/
theorem raw_frame_dropped :
    ¬∀ (k : Handler) (w : World) (peerId : String) (account : Option AccountIdentity)
      (acts : List WindowAction),
      let t := run (Watched.step k) (Watched.start w peerId account) acts
      ∀ c, t.conn.stage = .relaying c [] → ∀ text, (Place.window, WsFrame.text text) ∈ t.reads →
        k.answer (.text text) = none →
        ((k.reader.message text).isSome ∨ k.reader.rawFrame text = true) →
        text ∈ t.handled ∨ ∃ m, k.reader.message text = some m ∧ k.write m ∈ t.handled := by
  intro hall
  have hrun := hall rawHandler rawWorld "p0" none rawRun rawSession
    (stage_of_through (by decide +kernel)) rawText (by decide +kernel) (by decide +kernel)
    (Or.inr (by decide))
  have hnone : (run (Watched.step rawHandler) (Watched.start rawWorld "p0" none) rawRun).handled =
      [] := by
    decide +kernel
  simp [hnone] at hrun

end Raw

end MediaServo.Server
