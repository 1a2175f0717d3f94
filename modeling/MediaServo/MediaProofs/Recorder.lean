import MediaServo.Foundations.Runs
import MediaServo.Media.Deck

/-! Which recordings keep every frame that was taken and end with a trailer, whatever the order of
the steps of the bridge, of the worker and of the requests to stop. -/

namespace MediaServo.Media.Recorder

open MediaServo.Foundations

variable {F : Type}

def frames (log : List (Entry F)) : List F :=
  log.filterMap fun
    | .frame f => some f
    | .header | .trailer => none

@[simp] lemma frames_append (log log' : List (Entry F)) :
    frames (log ++ log') = frames log ++ frames log' :=
  List.filterMap_append

@[simp] lemma frames_header : frames [(.header : Entry F)] = [] := rfl

@[simp] lemma frames_frame (f : F) : frames [.frame f] = [f] := rfl

@[simp] lemma frames_trailer : frames [(.trailer : Entry F)] = [] := rfl

def Worker.hand : Worker F → List F
  | .opening f | .encoding f => [f]
  | _ => []

def Bridge.held : Bridge F → List F
  | .holding f => [f]
  | _ => []

def Worker.Left : Worker F → Prop
  | .finishing | .exited => True
  | _ => False

def Worker.Early : Worker F → Prop
  | .starting | .first | .firstEmpty | .opening _ => True
  | _ => False

def Worker.Asks : Worker F → Prop
  | .firstEmpty | .top | .lookedEmpty => True
  | _ => False

def Worker.Calls : Worker F → Prop
  | .starting | .opening _ | .encoding _ | .finishing => True
  | _ => False

/-- The file has the frames that were taken, each once and in their order, and all of them when the
worker receives no more; and a file with a header is complete when the worker is gone. -/
structure Kept (s : State F) : Prop where
  inOrder : frames s.log <+: s.taken
  encoded : s.worker.Left → frames s.log = s.taken
  trailer : s.worker = .exited → .header ∈ s.log → .trailer ∈ s.log

/-- No frame is taken that the worker will not receive, the worker stops with no frame waiting, and
no call into FFmpeg fails, but for one at the start with no frame waiting. -/
def Spares (s : State F) : Action F → Prop
  | .bridge poll => (∃ f, poll = .frame f) → s.bridge = .polling → ¬ s.worker.Left
  | .worker ok => (s.worker.Asks → s.running = false → s.queue = [] ∧ s.bridge.held = []) ∧
      (s.worker.Calls → ok = false →
        s.worker = .starting ∧ s.queue = [] ∧ s.bridge.held = [])
  | .stop => True

/-- What holds in every run: as long as the worker receives, each frame that was taken is in the
file or on its way there. -/
structure Flow (s : State F) : Prop where
  pending : ¬ s.worker.Left → s.taken = frames s.log ++ s.worker.hand ++ s.queue ++ s.bridge.held
  inOrder : frames s.log <+: s.taken
  header : .header ∈ s.log → ¬ s.worker.Early
  opened : ¬ s.worker.Early → s.worker ≠ .exited → .header ∈ s.log
  trailer : .trailer ∈ s.log → s.worker = .exited

lemma start_flow : Flow (start : State F) where
  pending _ := rfl
  inOrder := List.prefix_rfl
  header h := by cases h
  opened h := absurd trivial h
  trailer h := by cases h

section Steps

variable {s : State F}

lemma bridgeStep_worker (s : State F) (poll : Poll F) :
    (bridgeStep s poll).worker = s.worker ∧ (bridgeStep s poll).log = s.log := by
  rw [bridgeStep.eq_def]
  split
  · exact ⟨rfl, rfl⟩
  · split <;> exact ⟨rfl, rfl⟩
  · split <;> exact ⟨rfl, rfl⟩
  · exact ⟨rfl, rfl⟩

lemma bridgeStep_taken (s : State F) (poll : Poll F) :
    (bridgeStep s poll).taken = s.taken ∨
      ∃ f, poll = .frame f ∧ s.bridge = .polling ∧ (bridgeStep s poll).taken = s.taken ++ [f] := by
  rw [bridgeStep.eq_def]
  split
  · exact Or.inl rfl
  · rename_i hb
    split
    · exact Or.inr ⟨_, rfl, hb, rfl⟩
    · exact Or.inl rfl
    · exact Or.inl rfl
  · split <;> exact Or.inl rfl
  · exact Or.inl rfl

lemma bridgeStep_waiting (s : State F) (poll : Poll F) (hw : ¬ s.worker.Left) :
    ∃ l, (bridgeStep s poll).taken = s.taken ++ l ∧
      (bridgeStep s poll).queue ++ (bridgeStep s poll).bridge.held =
        s.queue ++ s.bridge.held ++ l := by
  rw [bridgeStep.eq_def]
  split
  · rename_i hb
    refine ⟨[], by simp, ?_⟩
    rw [hb]
    cases s.running <;> simp [Bridge.held]
  · rename_i hb
    rw [hb]
    split
    · rename_i f
      exact ⟨[f], rfl, by simp [Bridge.held]⟩
    · exact ⟨[], by simp, by simp [Bridge.held]⟩
    · exact ⟨[], by simp, by simp [Bridge.held]⟩
  · rename_i f hb
    rw [hb]
    refine ⟨[], ?_⟩
    split
    · rename_i hexit
      rw [hexit] at hw
      exact absurd trivial hw
    · exact ⟨by simp, by simp [Bridge.held]⟩
  · exact ⟨[], by simp, by simp⟩

lemma bridgeStep_flow (h : Flow s) (poll : Poll F) : Flow (bridgeStep s poll) := by
  obtain ⟨hworker, hlog⟩ := bridgeStep_worker s poll
  constructor
  · intro hw
    rw [hworker] at hw
    obtain ⟨l, htaken, hwaiting⟩ := bridgeStep_waiting s poll hw
    rw [htaken, hworker, hlog, List.append_assoc, hwaiting, h.pending hw]
    simp only [List.append_assoc]
  · rw [hlog]
    rcases bridgeStep_taken s poll with htaken | ⟨f, -, -, htaken⟩
    · rw [htaken]
      exact h.inOrder
    · rw [htaken]
      exact h.inOrder.trans (List.prefix_append _ _)
  · rw [hlog, hworker]
    exact h.header
  · rw [hlog, hworker]
    exact h.opened
  · rw [hlog, hworker]
    exact h.trailer

lemma Flow.move (h : Flow s) {w : Worker F} {queue : List F}
    (hhand : ¬ w.Left → ¬ s.worker.Left ∧ s.worker.hand ++ s.queue = w.hand ++ queue)
    (hearly : w.Early ↔ s.worker.Early) (hlast : s.worker ≠ .exited) :
    Flow { s with worker := w, queue := queue } where
  pending hw := by
    obtain ⟨hs, heq⟩ := hhand hw
    simp only
    rw [h.pending hs, List.append_assoc (frames s.log), heq, ← List.append_assoc]
  inOrder := h.inOrder
  header hh := by
    rw [hearly]
    exact h.header hh
  opened hw _ := h.opened (by rwa [hearly] at hw) hlast
  trailer ht := absurd (h.trailer ht) hlast

lemma Flow.exit (h : Flow s) : Flow { s with worker := .exited } where
  pending hw := absurd trivial hw
  inOrder := h.inOrder
  header _ := id
  opened _ hw := absurd rfl hw
  trailer _ := rfl

lemma receive_cases (s : State F) (got : F → Worker F) (empty disconnected : Worker F) :
    (∃ f rest, s.queue = f :: rest ∧
        receive s got empty disconnected = { s with worker := got f, queue := rest }) ∨
      (s.queue = [] ∧ s.bridge = .ended ∧
        receive s got empty disconnected = { s with worker := disconnected }) ∨
      (s.queue = [] ∧ receive s got empty disconnected = { s with worker := empty }) := by
  rw [receive.eq_def]
  split
  · rename_i f rest hq
    exact Or.inl ⟨f, rest, hq, rfl⟩
  · rename_i hq
    split
    · rename_i hb
      exact Or.inr (Or.inl ⟨hq, hb, rfl⟩)
    · exact Or.inr (Or.inr ⟨hq, rfl⟩)

lemma Flow.opens (h : Flow s) {f : F} (hw : s.worker = .opening f) :
    Flow { s with worker := .encoding f, log := s.log ++ [.header] } where
  pending _ := by
    have hs := h.pending (by rw [hw]; exact id)
    rw [hw] at hs
    simpa [Worker.hand] using hs
  inOrder := by simpa using h.inOrder
  header _ := id
  opened _ _ := by simp
  trailer ht := by
    have hnone : Entry.trailer ∉ s.log := fun ht => by
      have := h.trailer ht
      rw [hw] at this
      cases this
    simp [hnone] at ht

lemma Flow.encodes (h : Flow s) {f : F} (hw : s.worker = .encoding f) :
    Flow { s with worker := .top, log := s.log ++ [.frame f] } := by
  have hs := h.pending (by rw [hw]; exact id)
  rw [hw] at hs
  have hopen : .header ∈ s.log := h.opened (by rw [hw]; exact id) (by rw [hw]; simp)
  have hnone : Entry.trailer ∉ s.log := fun ht => by
    have := h.trailer ht
    rw [hw] at this
    cases this
  refine ⟨?_, ?_, fun _ => id, ?_, ?_⟩
  · intro _
    simpa [Worker.hand] using hs
  · simp only [hs, Worker.hand, frames_append, frames_frame, List.append_assoc]
    rw [← List.append_assoc (frames s.log) [f]]
    exact List.prefix_append _ _
  · intro _ _
    exact List.mem_append_left _ hopen
  · intro ht
    simp [hnone] at ht

lemma Flow.finishes (h : Flow s) :
    Flow { s with worker := .exited, log := s.log ++ [.trailer] } where
  pending hl := absurd trivial hl
  inOrder := by simpa using h.inOrder
  header _ := id
  opened _ hl := absurd rfl hl
  trailer _ := rfl

lemma workerStep_flow (h : Flow s) (ok : Bool) : Flow (workerStep s ok) := by
  rw [workerStep.eq_def]
  split <;> rename_i hw
  case h_1 =>
    cases ok with
    | true => exact h.move (by simp [hw, Worker.Left, Worker.hand]) (by simp [hw, Worker.Early]) (by simp [hw])
    | false => exact h.exit
  case h_2 =>
    rcases receive_cases s .opening .firstEmpty .exited with
      ⟨f, rest, hq, heq⟩ | ⟨-, -, heq⟩ | ⟨-, heq⟩
    · rw [heq]
      exact h.move (by simp [hw, hq, Worker.Left, Worker.hand]) (by simp [hw, Worker.Early]) (by simp [hw])
    · rw [heq]
      exact h.exit
    · rw [heq]
      exact h.move (by simp [hw, Worker.Left, Worker.hand]) (by simp [hw, Worker.Early]) (by simp [hw])
  case h_3 =>
    split_ifs
    · exact h.move (by simp [hw, Worker.Left, Worker.hand]) (by simp [hw, Worker.Early]) (by simp [hw])
    · exact h.exit
  case h_4 f =>
    cases ok with
    | true => exact h.opens hw
    | false => exact h.exit
  case h_5 f =>
    cases ok with
    | true => exact h.encodes hw
    | false => exact h.exit
  case h_6 =>
    split_ifs
    · exact h.move (by simp [hw, Worker.Left, Worker.hand]) (by simp [hw, Worker.Early]) (by simp [hw])
    · exact h.move (by simp [Worker.Left]) (by simp [hw, Worker.Early]) (by simp [hw])
  case h_7 =>
    rcases receive_cases s .encoding .lookedEmpty .finishing with
      ⟨f, rest, hq, heq⟩ | ⟨-, -, heq⟩ | ⟨-, heq⟩
    · rw [heq]
      exact h.move (by simp [hw, hq, Worker.Left, Worker.hand]) (by simp [hw, Worker.Early]) (by simp [hw])
    · rw [heq]
      exact h.move (by simp [Worker.Left]) (by simp [hw, Worker.Early]) (by simp [hw])
    · rw [heq]
      exact h.move (by simp [hw, Worker.Left, Worker.hand]) (by simp [hw, Worker.Early]) (by simp [hw])
  case h_8 =>
    split_ifs
    · exact h.move (by simp [hw, Worker.Left, Worker.hand]) (by simp [hw, Worker.Early]) (by simp [hw])
    · exact h.move (by simp [Worker.Left]) (by simp [hw, Worker.Early]) (by simp [hw])
  case h_9 =>
    cases ok with
    | true => exact h.finishes
    | false => exact h.exit
  case h_10 => exact h

lemma step_flow (h : Flow s) (a : Action F) : Flow (step s a) := by
  cases a with
  | bridge poll => exact bridgeStep_flow h poll
  | worker ok => exact workerStep_flow h ok
  | stop => exact ⟨h.pending, h.inOrder, h.header, h.opened, h.trailer⟩

lemma Flow.kept (h : Flow s) (hw : ¬ s.worker.Left) : Kept s where
  inOrder := h.inOrder
  encoded hl := absurd hl hw
  trailer he := by
    rw [he] at hw
    exact absurd trivial hw

lemma Flow.encoded_iff (h : Flow s) (hw : ¬ s.worker.Left) :
    frames s.log = s.taken ↔ s.worker.hand = [] ∧ s.queue = [] ∧ s.bridge.held = [] := by
  rw [h.pending hw, List.append_assoc, List.append_assoc]
  constructor
  · intro heq
    have hnil := List.self_eq_append_right.mp heq
    simpa only [List.append_eq_nil_iff] using hnil
  · rintro ⟨hhand, hqueue, hheld⟩
    simp [hhand, hqueue, hheld]

lemma Flow.leaves_iff (h : Flow s) (hs : ¬ s.worker.Left) {w : Worker F} (hw : w.Left)
    (hearly : w = .exited → s.worker.Early ∨ s.worker.hand ≠ []) :
    Kept { s with worker := w } ↔ s.worker.hand = [] ∧ s.queue = [] ∧ s.bridge.held = [] := by
  rw [← h.encoded_iff hs]
  constructor
  · exact fun hk => hk.encoded hw
  · intro heq
    refine ⟨h.inOrder, fun _ => heq, ?_⟩
    intro he hheader
    rcases hearly he with hearly | hhand
    · exact absurd hearly (h.header hheader)
    · exact absurd ((h.encoded_iff hs).1 heq).1 hhand

lemma bridgeStep_kept_iff (hk : Kept s) (poll : Poll F) :
    Kept (bridgeStep s poll) ↔ Spares s (.bridge poll) := by
  obtain ⟨hworker, hlog⟩ := bridgeStep_worker s poll
  rcases bridgeStep_taken s poll with htaken | ⟨f, rfl, hb, htaken⟩
  · constructor
    · rintro - ⟨f, rfl⟩ hb
      have : (bridgeStep s (.frame f)).taken = s.taken ++ [f] := by rw [bridgeStep.eq_def, hb]
      simp [htaken] at this
    · intro _
      constructor
      · rw [hlog, htaken]
        exact hk.inOrder
      · rw [hlog, htaken, hworker]
        exact hk.encoded
      · rw [hlog, hworker]
        exact hk.trailer
  · constructor
    · intro h' _ _ hleft
      have heq := h'.encoded (by rwa [hworker])
      rw [hlog, htaken, hk.encoded hleft] at heq
      simp at heq
    · intro hspares
      have hleft := hspares ⟨f, rfl⟩ hb
      constructor
      · rw [hlog, htaken]
        exact hk.inOrder.trans (List.prefix_append _ _)
      · rw [hworker]
        exact fun hl => absurd hl hleft
      · rw [hworker, hlog]
        exact hk.trailer

lemma spares_worker {ok : Bool} (hasks : s.worker.Asks → s.running = true)
    (hcalls : s.worker.Calls → ok = true) : Spares s (.worker ok) :=
  ⟨fun ha hr => by simp [hasks ha] at hr, fun hc hok => by simp [hcalls hc] at hok⟩

lemma stops_kept_iff (hf : Flow s) (ok : Bool) (hasks : s.worker.Asks) (hr : ¬ s.running = true)
    {w : Worker F} (hw : w.Left) (hexit : w = .exited → s.worker.Early) :
    Kept { s with worker := w } ↔ Spares s (.worker ok) := by
  have hs : ¬ s.worker.Left ∧ s.worker.hand = [] ∧ ¬ s.worker.Calls := by
    cases hworker : s.worker <;> simp_all [Worker.Asks, Worker.Left, Worker.hand, Worker.Calls]
  rw [hf.leaves_iff hs.1 hw fun he => Or.inl (hexit he), Spares]
  simp only [Bool.not_eq_true] at hr
  constructor
  · rintro ⟨-, hwait⟩
    exact ⟨fun _ _ => hwait, fun hc => absurd hc hs.2.2⟩
  · rintro ⟨hwait, -⟩
    exact ⟨hs.2.1, hwait hasks hr⟩

lemma not_kept_of_hand (hf : Flow s) {f : F} (hs : ¬ s.worker.Left) (hhand : s.worker.hand = [f]) :
    ¬ Kept { s with worker := .exited } := by
  have hne : s.worker.hand ≠ [] := by simp [hhand]
  rw [hf.leaves_iff hs (w := .exited) trivial fun _ => Or.inr hne]
  exact fun h => hne h.1

lemma workerStep_kept_iff (hf : Flow s) (hk : Kept s) (ok : Bool) :
    Kept (workerStep s ok) ↔ Spares s (.worker ok) := by
  have hflow := workerStep_flow hf ok
  have htrivial (hw : ¬ (workerStep s ok).worker.Left) (hspares : Spares s (.worker ok)) :
      Kept (workerStep s ok) ↔ Spares s (.worker ok) :=
    iff_of_true (hflow.kept hw) hspares
  have hdrained (hs : ¬ s.worker.Left) (hhand : s.worker.hand = []) (hq : s.queue = [])
      (hb : s.bridge = .ended) {w : Worker F} (hw : w.Left) (hexit : w = .exited → s.worker.Early) :
      Kept { s with worker := w } := by
    rw [hf.leaves_iff hs hw fun he => Or.inl (hexit he), hb]
    exact ⟨hhand, hq, rfl⟩
  rw [workerStep.eq_def] at htrivial ⊢
  cases hworker : s.worker with
  | starting =>
    cases ok with
    | true =>
      simp only [hworker, if_true] at htrivial ⊢
      exact htrivial id (spares_worker (by simp [hworker, Worker.Asks]) fun _ => rfl)
    | false =>
      simp only [Bool.false_eq_true, if_false]
      rw [hf.leaves_iff (by simp [hworker, Worker.Left]) (w := .exited) trivial
        fun _ => Or.inl (by rw [hworker]; trivial), Spares, hworker]
      simp [Worker.hand, Worker.Asks, Worker.Calls]
  | first =>
    simp only [hworker] at htrivial ⊢
    have hspares : Spares s (.worker ok) :=
      spares_worker (by simp [hworker, Worker.Asks]) (by simp [hworker, Worker.Calls])
    rcases receive_cases s .opening .firstEmpty .exited with
      ⟨f, rest, -, heq⟩ | ⟨hq, hb, heq⟩ | ⟨-, heq⟩
    · rw [heq] at htrivial ⊢
      exact htrivial id hspares
    · rw [heq]
      exact iff_of_true (hdrained (by simp [hworker, Worker.Left]) (by rw [hworker]; rfl) hq hb trivial
        fun _ => by rw [hworker]; trivial) hspares
    · rw [heq] at htrivial ⊢
      exact htrivial id hspares
  | firstEmpty =>
    simp only [hworker] at htrivial ⊢
    by_cases hr : s.running
    · simp only [hr, if_true] at htrivial ⊢
      exact htrivial id (spares_worker (fun _ => hr) (by simp [hworker, Worker.Calls]))
    · rw [if_neg hr]
      exact stops_kept_iff hf ok (by rw [hworker]; trivial) hr trivial fun _ => by rw [hworker]; trivial
  | opening f | encoding f =>
    cases ok with
    | true =>
      simp only [hworker, if_true] at htrivial ⊢
      exact htrivial id (spares_worker (by simp [hworker, Worker.Asks]) fun _ => rfl)
    | false =>
      simp only [Bool.false_eq_true, if_false]
      apply iff_of_false
      · exact not_kept_of_hand hf (by simp [hworker, Worker.Left]) (by rw [hworker]; rfl)
      · simp [Spares, hworker, Worker.Calls]
  | top | lookedEmpty =>
    simp only [hworker] at htrivial ⊢
    by_cases hr : s.running
    · simp only [hr, if_true] at htrivial ⊢
      exact htrivial id (spares_worker (fun _ => hr) (by simp [hworker, Worker.Calls]))
    · rw [if_neg hr]
      exact stops_kept_iff hf ok (by rw [hworker]; trivial) hr trivial (by simp)
  | looking =>
    simp only [hworker] at htrivial ⊢
    have hspares : Spares s (.worker ok) :=
      spares_worker (by simp [hworker, Worker.Asks]) (by simp [hworker, Worker.Calls])
    rcases receive_cases s .encoding .lookedEmpty .finishing with
      ⟨f, rest, -, heq⟩ | ⟨hq, hb, heq⟩ | ⟨-, heq⟩
    · rw [heq] at htrivial ⊢
      exact htrivial id hspares
    · rw [heq]
      exact iff_of_true (hdrained (by simp [hworker, Worker.Left]) (by rw [hworker]; rfl) hq hb trivial
        (by simp)) hspares
    · rw [heq] at htrivial ⊢
      exact htrivial id hspares
  | finishing =>
    have hall := hk.encoded (by rw [hworker]; trivial)
    cases ok with
    | true =>
      simp only [if_true]
      apply iff_of_true
      · exact ⟨by simp [hall], fun _ => by simp [hall], fun _ _ => by simp⟩
      · exact spares_worker (by simp [hworker, Worker.Asks]) fun _ => rfl
    | false =>
      simp only [Bool.false_eq_true, if_false]
      apply iff_of_false
      · intro h
        have hopen := hf.opened (by rw [hworker]; exact id) (by rw [hworker]; simp)
        have := hf.trailer (h.trailer rfl hopen)
        rw [hworker] at this
        cases this
      · simp [Spares, hworker, Worker.Calls]
  | exited =>
    simp only
    exact iff_of_true hk (spares_worker (by simp [hworker, Worker.Asks]) (by simp [hworker, Worker.Calls]))

lemma step_kept_iff (hf : Flow s) (hk : Kept s) (a : Action F) : Kept (step s a) ↔ Spares s a := by
  cases a with
  | bridge poll => exact bridgeStep_kept_iff hk poll
  | worker ok => exact workerStep_kept_iff hf hk ok
  | stop => exact iff_of_true ⟨hk.inOrder, hk.encoded, hk.trailer⟩ trivial

end Steps

/-- A recording keeps its frames and its trailer all along exactly when no step loses one. -/
theorem recording_kept_iff (acts : List (Action F)) :
    (∀ as bs, acts = as ++ bs → Kept (run step start as)) ↔ Along step Spares start acts := by
  have hflow : ∀ as : List (Action F), Flow (run step start as) :=
    run_preserves start_flow fun _ a h => step_flow h a
  induction acts using List.reverseRecOn with
  | nil =>
    refine iff_of_true ?_ trivial
    intro as bs h
    obtain ⟨rfl, -⟩ := List.append_eq_nil_iff.mp h.symm
    exact start_flow.kept id
  | append_singleton acts a ih =>
    rw [along_append]
    constructor
    · intro h
      have hbefore : Kept (run step start acts) := h acts [a] rfl
      have hafter := h (acts ++ [a]) [] (by simp)
      rw [run_snoc] at hafter
      refine ⟨ih.1 fun as bs heq => h as (bs ++ [a]) (by simp [heq]), ?_, trivial⟩
      exact (step_kept_iff (hflow acts) hbefore a).1 hafter
    · rintro ⟨halong, hspares, -⟩ as bs heq
      have h := ih.2 halong
      rcases List.append_eq_append_iff.mp heq with ⟨c, rfl, hc⟩ | ⟨c, hacts, -⟩
      · cases c with
        | nil =>
          simpa using h acts [] (by simp)
        | cons b c =>
          obtain ⟨rfl, hnil⟩ := List.cons.inj hc
          obtain ⟨rfl, -⟩ := List.append_eq_nil_iff.mp hnil.symm
          rw [run_snoc]
          exact (step_kept_iff (hflow acts) (h acts [] (by simp)) a).2 hspares
      · exact h as c hacts

def stoppedInTime : List (Action ℕ) :=
  [.bridge .elapsed, .bridge (.frame 1), .bridge .elapsed, .worker true, .worker true, .worker true,
    .worker true, .bridge .elapsed, .bridge (.frame 2), .bridge .elapsed, .stop, .worker true]

theorem stop_loses_frame : ¬ ∀ as bs, stoppedInTime = as ++ bs → Kept (run step start as) := by
  intro h
  have hall := (h stoppedInTime [] rfl).encoded trivial
  revert hall
  decide

end MediaServo.Media.Recorder
