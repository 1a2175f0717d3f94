import MediaServo.Server.TextFrames
import MediaServo.ServerProofs.Steps

/-! Which texts the relay loop gets through, and that a session whose texts are all such ends by
its cleanup or by a hold. -/

namespace MediaServo.Server

open MediaServo.Foundations MediaServo.Common

variable {rd : TextReader} {level : LogLevel}

/-- No log is cut, or the text is not cut at all, or every cut lies between two characters. -/
def CutsWhole (rd : TextReader) (level : LogLevel) (text : String) : Prop :=
  level.enablesDebug = false ∨ (∃ msg, rd.message text = some msg ∧ consumedFirst msg) ∨
    CharBoundary text.toList (min (byteLength text.toList) 200) ∧
      (rd.message text = none → CharBoundary text.toList (min (byteLength text.toList) 100))

def LoopAction.CutsWhole (rd : TextReader) (level : LogLevel) : LoopAction → Prop
  | .frame _ text _ => Server.CutsWhole rd level text
  | _ => True

def LoopAction.ends : LoopAction → Option ℕ
  | .frame i _ _ | .close i => some i
  | _ => none

lemma debugCut_isSome (level : LogLevel) (text : String) (n : ℕ) : (debugCut level text n).isSome ↔
    level.enablesDebug = false ∨ CharBoundary text.toList (min (byteLength text.toList) n) := by
  rw [debugCut]
  cases level.enablesDebug with
  | false => simp
  | true => simp [sliceTo_isSome]

lemma relayText_isSome (s : SignalingServer) (c : Session) (text : String) (w : Worker) :
    (s.relayText rd level c text w).isSome ↔ CutsWhole rd level text := by
  rw [CutsWhole]
  cases hm : rd.message text with
  | some msg =>
    simp only [SignalingServer.relayText, hm]
    cases hc : consumedFirst msg with
    | true => simp [hc]
    | false =>
      have hcut := debugCut_isSome level text 200
      cases hd : debugCut level text 200 with
      | none =>
        rw [hd] at hcut
        simpa [hc] using hcut
      | some p =>
        rw [hd] at hcut
        simpa [hc] using hcut
  | none =>
    simp only [SignalingServer.relayText, hm]
    have hlong := debugCut_isSome level text 200
    have hshort := debugCut_isSome level text 100
    cases hd : debugCut level text 200 with
    | none =>
      rw [hd] at hlong
      simp only [Option.isSome_none, Bool.false_eq_true, false_iff, not_or] at hlong
      simp [hlong]
    | some p =>
      rw [hd] at hlong
      cases hd' : debugCut level text 100 with
      | none =>
        rw [hd'] at hshort
        simp only [Option.isSome_none, Bool.false_eq_true, false_iff, not_or] at hshort
        simp [hshort]
      | some p' =>
        rw [hd'] at hshort
        have hl := hlong.mp rfl
        have hs := hshort.mp rfl
        simp only [Option.bind_eq_bind, Option.bind_some, Option.pure_def, Option.isSome_some,
          reduceCtorEq, false_and, exists_false, false_or, true_imp_iff, true_iff]
        tauto

namespace RelayLoops

variable {s : RelayLoops} {i : ℕ} {c : Session}

/-- The session has been cleaned up at this very step, or its cleanup is registered. -/
def Settled (s : RelayLoops) (c : Session) : Prop :=
  (∃ t : SignalingServer, s.server = t.disconnectSession c.peerId c.roomId) ∨
    ∃ seq, ⟨c.peerId, c.roomId, c.key, seq⟩ ∈ s.holds

lemma close_settled (raw : List (String × String)) (aborted : List Session) {sys : System}
    (h : sys.live i = some c) : Settled ⟨sys.close i, raw, aborted⟩ c := by
  rw [System.close, h]
  simp only
  cases sys.server.heldSeq c with
  | some seq => exact Or.inr ⟨seq, List.mem_cons_self⟩
  | none => exact Or.inl ⟨sys.server, rfl⟩

lemma frame_settled {text : String} {w : Worker} (hw : CutsWhole rd level text)
    (h : s.live i = some c) (hend : (s.frame rd level i text w).live i = none) :
    (s.frame rd level i text w).Settled c := by
  obtain ⟨r, hr⟩ := Option.isSome_iff_exists.mp ((relayText_isSome s.server c text w).mpr hw)
  simp only [frame, h, hr] at hend ⊢
  split at hend
  · next he =>
    rw [if_pos he]
    exact close_settled _ _ h
  · have hlive : s.live i = none := hend
    rw [h] at hlive
    cases hlive

lemma step_settled {a : LoopAction} (hw : a.CutsWhole rd level) (ha : a.ends = some i)
    (h : s.live i = some c) (hend : (s.step rd level a).live i = none) :
    (s.step rd level a).Settled c := by
  cases a with
  | frame j text w =>
    cases ha
    exact frame_settled hw h hend
  | close j =>
    cases ha
    exact close_settled _ _ h
  | join | expire | kickPeer | removeRoom => cases ha

lemma step_aborted {a : LoopAction} (hw : a.CutsWhole rd level) :
    (s.step rd level a).aborted = s.aborted := by
  cases a with
  | frame j text w =>
    simp only [step, frame]
    cases s.live j with
    | none => rfl
    | some d =>
      obtain ⟨r, hr⟩ := Option.isSome_iff_exists.mp ((relayText_isSome s.server d text w).mpr hw)
      simp only [hr]
      split <;> rfl
  | join | close | expire | kickPeer | removeRoom => rfl

lemma run_aborted {acts : List LoopAction}
    (h : Along (step rd level) (fun _ a => a.CutsWhole rd level) s acts) :
    (run (step rd level) s acts).aborted = s.aborted := by
  induction acts generalizing s with
  | nil => rfl
  | cons a acts ih => rw [run_cons, ih h.2, step_aborted h.1]

end RelayLoops

open RelayLoops in
/-- A text is handled to the end exactly when no cut for the log goes through one of its characters.
In a run of such texts no loop is aborted, and a session ends by its cleanup or by a hold. -/
theorem relay_loop_completes (rd : TextReader) (level : LogLevel) :
    (∀ (s : SignalingServer) (c : Session) (text : String) (w : Worker),
      (s.relayText rd level c text w).isSome ↔ CutsWhole rd level text) ∧
    ∀ acts : List LoopAction,
      Along (step rd level) (fun _ a => a.CutsWhole rd level) start acts →
      (run (step rd level) start acts).aborted = [] ∧
      ∀ (a : LoopAction) (i : ℕ) (c : Session), a.CutsWhole rd level → a.ends = some i →
        (run (step rd level) start acts).live i = some c →
        ((run (step rd level) start acts).step rd level a).live i = none →
        ((run (step rd level) start acts).step rd level a).Settled c := by
  refine ⟨relayText_isSome, ?_⟩
  intro acts h
  exact ⟨run_aborted h, fun a i c hw ha hl hend => step_settled hw ha hl hend⟩

def plainReader : TextReader := ⟨fun _ => none, fun _ => false⟩

def car1Host : JoinRequest := ⟨"p1", .device "car1", "car1", .host, none, none⟩

def idleWorker : Worker where
  router := .elapsed
  transport := .elapsed
  dtls := .error "idle"
  connect := .error "idle"
  capabilities := .error "idle"
  layers := .elapsed
  rtpParameters := .error "idle"
  produce := .error "idle"
  rtpCapabilities := .error "idle"
  consume := .error "idle"
  produceData := .error "idle"
  consumeData := .error "idle"
  stats := .error "idle"

def straddling : String := String.ofList (List.replicate 199 'a' ++ ['é', 'e', 'e'])

theorem relay_loop_completes_quiet :
    RelayLoops.Settled
      (run (RelayLoops.step plainReader .info) RelayLoops.start
        (([.join car1Host "n1", .frame 0 straddling idleWorker] : List LoopAction) ++
          ([.close 0] : List LoopAction)))
      (car1Host.session "p1") := by
  have hsafe : Along (RelayLoops.step plainReader .info)
      (fun _ a => LoopAction.CutsWhole plainReader .info a) RelayLoops.start
      [.join car1Host "n1", .frame 0 straddling idleWorker] := ⟨trivial, Or.inl rfl, trivial⟩
  rw [run_append]
  exact ((relay_loop_completes plainReader .info).2 _ hsafe).2 (.close 0) 0 (car1Host.session "p1")
    trivial rfl (by decide) (by decide)

lemma straddling_toList : straddling.toList = List.replicate 199 'a' ++ ['é', 'e', 'e'] := by
  have hlist : ∀ l, straddling = String.ofList l → straddling.toList = l := by
    intro l h
    rw [h, String.toList_ofList]
  apply hlist
  delta straddling
  exact Eq.refl _

lemma debugCut_debug (text : String) (n : ℕ) :
    debugCut .debug text n = sliceTo text.toList (min (byteLength text.toList) n) :=
  rfl

lemma relayText_straddling (s : SignalingServer) (c : Session) (w : Worker) :
    s.relayText plainReader .debug c straddling w = none := by
  have hcut : debugCut .debug straddling 200 = none := by
    rw [debugCut_debug, straddling_toList]
    decide +kernel
  simp [SignalingServer.relayText, plainReader, hcut]

lemma frame_aborted {rd : TextReader} {level : LogLevel} {s : RelayLoops} {i : ℕ} {c : Session}
    {text : String} {w : Worker} (hl : s.live i = some c)
    (hr : s.server.relayText rd level c text w = none) :
    s.frame rd level i text w =
      { s with sessions := s.sessions.set i ⟨c, false⟩, aborted := c :: s.aborted } := by
  rw [RelayLoops.frame, hl]
  simp only [hr]

/-- With the debug log on the frame ends the session, which is still in its room and has no hold. -/
theorem straddling_frame_aborts :
    ¬(SignalingServer.relayText plainReader .debug RelayLoops.start.server (car1Host.session "p1")
        straddling idleWorker).isSome ∧
      ¬RelayLoops.Settled
        (run (RelayLoops.step plainReader .debug) RelayLoops.start
          [.join car1Host "n1", .frame 0 straddling idleWorker])
        (car1Host.session "p1") := by
  refine ⟨by simp [relayText_straddling], ?_⟩
  intro h
  have hlive : (RelayLoops.start.onSystem (.join car1Host "n1")).live 0 =
      some (car1Host.session "p1") := by decide
  rw [run_cons, run_cons, run_nil, RelayLoops.step, RelayLoops.step,
    frame_aborted hlive (relayText_straddling _ _ _)] at h
  have hhost : (RelayLoops.start.onSystem (.join car1Host "n1")).server.roomManager.hostOf "car1" =
      some "p1" := by decide
  obtain ⟨t, ht⟩ | ⟨seq, hseq⟩ := h
  · have hrooms := (t.disconnectSession_departs (car1Host.session "p1").peerId
      (car1Host.session "p1").roomId).rooms
    rw [← ht] at hrooms
    rw [hrooms] at hhost
    exact (RoomManager.hostOf_depart.1 hhost).2 ⟨rfl, rfl⟩
  · cases hseq

end MediaServo.Server
