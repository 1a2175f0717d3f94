import MediaServo.ServerProofs.DeviceIdentity

/-! The pending table and the registry: which handlers can leave a device in both, and what an
approval that fails leaves behind. -/

namespace MediaServo.Server

open MediaServo.Foundations MediaServo.Common

section Registry

variable {crypto : Crypto} {r r' : DeviceRegistry} {d e : String}

lemma revoke_devices (h : r.revoke d = .ok r') : r'.devices = r.devices.remove d := by
  rw [DeviceRegistry.revoke] at h
  split_ifs at h
  cases h
  rfl

lemma registerWithSecret_devices {secret : Option String} {fresh : String}
    {x : DeviceRegistry × String × String}
    (h : r.registerWithSecret crypto d secret fresh = .ok x) :
    ∃ entry, x.1.devices = r.devices.set d entry := by
  rw [DeviceRegistry.registerWithSecret] at h
  split_ifs at h
  dsimp only at h
  split at h
  · split_ifs at h
    cases h
    exact ⟨_, rfl⟩
  · cases h
    exact ⟨_, rfl⟩

lemma resetSecret_devices {fresh : String} {x : DeviceRegistry × String × String}
    (h : r.resetSecret crypto d fresh = .ok x) :
    (∃ old, r.entryOf d = some old) ∧ ∃ entry, x.1.devices = r.devices.set d entry := by
  rw [DeviceRegistry.resetSecret] at h
  split at h
  · rename_i old hold
    cases h
    exact ⟨⟨_, hold⟩, _, rfl⟩
  · cases h

lemma entryOf_set {entry : Entry} (h : r'.devices = r.devices.set d entry) :
    r'.entryOf e = if e = d then some entry else r.entryOf e := by
  rw [DeviceRegistry.entryOf, h, FiniteMap.get_set]
  rfl

lemma entryOf_remove (h : r'.devices = r.devices.remove d) :
    r'.entryOf e = if e = d then none else r.entryOf e := by
  rw [DeviceRegistry.entryOf, h, FiniteMap.get_remove]
  rfl

end Registry

def AdminTask.device : AdminTask → String
  | .registered d _ _ => d
  | .revoked d => d
  | .secretReset d _ => d
  | .taken d _ _ => d
  | .admitted d _ _ => d
  | .restoring d _ _ => d

namespace AuthServer

variable {crypto : Crypto} {s t : AuthServer} {d : String}

def Enrolling (s : AuthServer) (d : String) : Prop :=
  ∃ c ∈ s.conns, ∃ v, c.phase = .enrolled v ∧ v.pending.deviceId = d

def Both (s : AuthServer) (d : String) : Prop :=
  (∃ e, s.pending.get d = some e) ∧ ∃ e, s.registry.entryOf d = some e

def Separate (s : AuthServer) : Prop := ∀ d, Both s d → Enrolling s d

def Idle (s : AuthServer) : Prop :=
  s.tasks = [] ∧ ∀ c ∈ s.conns, ∀ v, c.phase ≠ .verified v ∧ c.phase ≠ .lostRace v ∧
    c.phase ≠ .enrolled v

/-- No step puts a device into one of the two tables while it is in the other. -/
def Coherent (crypto : Crypto) (s : AuthServer) : AuthAction → Prop
  | .registerDevice d secret fresh => validateDeviceId d = .ok () →
      ∀ x, s.registry.registerWithSecret crypto d secret fresh = .ok x → s.pending.get d = none
  | .policyGate i => ∀ c v, s.conns[i]? = some c → c.phase = .verified v →
      s.allowDevEnroll = false → s.registry.entryOf v.pending.deviceId = none
  | .resumeTask k _ =>
      match s.tasks[k]? with
      | some (.taken d e name) =>
          ∀ r, s.registry.enrollAuto crypto d e.vk name = .ok r → s.pending.get d = none
      | some (.restoring d _ _) => s.registry.entryOf d = none
      | _ => True
  | _ => True

lemma Separate.same (h : Separate s) (hp : t.pending = s.pending) (hr : t.registry = s.registry)
    (hc : ∀ d, Enrolling s d → Enrolling t d) : Separate t := by
  rintro d ⟨hpd, hrd⟩
  rw [hp] at hpd
  rw [hr] at hrd
  exact hc d (h d ⟨hpd, hrd⟩)

lemma Separate.thinned (h : Separate s) (hc : t.conns = s.conns)
    (hp : ∀ d e, t.pending.get d = some e → ∃ e', s.pending.get d = some e')
    (hr : ∀ d e, t.registry.entryOf d = some e → ∃ e', s.registry.entryOf d = some e') :
    Separate t := by
  rintro d ⟨⟨e, he⟩, ⟨f, hf⟩⟩
  obtain ⟨c, hcm, hv⟩ := h d ⟨hp d e he, hr d f hf⟩
  exact ⟨c, hc ▸ hcm, hv⟩

lemma Separate.registered (h : Separate s) (hc : t.conns = s.conns) (hp : t.pending = s.pending)
    (hnone : s.pending.get d = none) {entry : Entry}
    (hr : t.registry.devices = s.registry.devices.set d entry) : Separate t := by
  rintro e ⟨⟨x, hx⟩, ⟨y, hy⟩⟩
  rw [hp] at hx
  have hne : e ≠ d := by
    rintro rfl
    rw [hnone] at hx
    cases hx
  rw [entryOf_set hr, if_neg hne] at hy
  obtain ⟨c, hcm, hv⟩ := h e ⟨⟨x, hx⟩, ⟨y, hy⟩⟩
  exact ⟨c, hc ▸ hcm, hv⟩

lemma Separate.awaiting (h : Separate s) (hr : t.registry = s.registry)
    (hnone : s.registry.entryOf d = none) (hc : ∀ e, Enrolling s e → Enrolling t e)
    {entry : PendingEntry} (hp : t.pending = s.pending.set d entry) : Separate t := by
  rintro e ⟨⟨x, hx⟩, ⟨y, hy⟩⟩
  rw [hr] at hy
  have hne : e ≠ d := by
    rintro rfl
    rw [hnone] at hy
    cases hy
  rw [hp, FiniteMap.get_set_ne _ _ hne] at hx
  exact hc e (h e ⟨⟨x, hx⟩, ⟨y, hy⟩⟩)

section Conns

variable {i : ℕ} {c c' : AuthConn}

lemma enrolling_set (hi : s.conns[i]? = some c) (ht : t.conns = s.conns.set i c')
    (hkeep : ∀ v, c.phase = .enrolled v → c'.phase = .enrolled v) {d : String}
    (h : Enrolling s d) : Enrolling t d := by
  obtain ⟨x, hx, v, hv, hd⟩ := h
  obtain ⟨j, hj⟩ := List.mem_iff_getElem?.mp hx
  have hlt := (List.getElem?_eq_some_iff.mp hj).1
  by_cases hij : i = j
  · subst hij
    rw [hi] at hj
    cases hj
    refine ⟨c', ?_, v, hkeep v hv, hd⟩
    rw [ht]
    exact List.mem_iff_getElem?.mpr ⟨i, List.getElem?_set_self hlt⟩
  · refine ⟨x, ?_, v, hv, hd⟩
    rw [ht]
    exact List.mem_iff_getElem?.mpr ⟨j, by rw [List.getElem?_set_ne hij, hj]⟩

lemma withConn_same (f : AuthConn → AuthConn)
    (hkeep : ∀ c v, c.phase = .enrolled v → (f c).phase = .enrolled v) (h : Separate s) :
    Separate (s.withConn i (fun c => (s, f c))) := by
  rw [withConn]
  split
  · rename_i c hc
    exact h.same rfl rfl (fun d hd => enrolling_set hc rfl (hkeep c) hd)
  · exact h

lemma policyGate_separate (h : Separate s) (hc : Coherent crypto s (.policyGate i)) :
    Separate (s.withConn i (s.policyGate crypto)) := by
  rw [withConn]
  split
  · rename_i c hi
    have hother : (∀ v, c.phase ≠ .verified v) → Separate
        { (s.policyGate crypto c).1 with conns := s.conns.set i (s.policyGate crypto c).2 } := by
      intro hv
      have he : s.policyGate crypto c = (s, c) := by
        rw [policyGate]
        split
        · rename_i v hp
          exact absurd hp (hv v)
        · rfl
      rw [he]
      exact h.same rfl rfl (fun d hd => enrolling_set hi rfl (fun v hv => hv) hd)
    cases hp : c.phase with
    | verified v =>
      have hleave : ∀ {c' : AuthConn} w, c.phase = .enrolled w → c'.phase = .enrolled w := by
        intro c' w hw
        rw [hp] at hw
        cases hw
      rw [policyGate]
      simp only [hp]
      split_ifs with hallow
      · split
        · rename_i registry he
          obtain ⟨_, _, hr⟩ := DeviceRegistry.enrollAuto_eq_ok.1 he
          rintro e ⟨⟨x, hx⟩, ⟨y, hy⟩⟩
          by_cases hed : e = v.pending.deviceId
          · refine ⟨{ c with phase := .enrolled v }, ?_, v, rfl, hed.symm⟩
            exact List.mem_iff_getElem?.mpr
              ⟨i, List.getElem?_set_self (List.getElem?_eq_some_iff.mp hi).1⟩
          · rw [hr] at hy
            rw [entryOf_set rfl, if_neg hed] at hy
            exact enrolling_set hi rfl hleave (h e ⟨⟨x, hx⟩, ⟨y, hy⟩⟩)
        · exact h.same rfl rfl (fun d hd => enrolling_set hi rfl hleave hd)
        · exact h.same rfl rfl (fun d hd => enrolling_set hi rfl hleave hd)
      · exact h.awaiting rfl (hc c v hi hp (by simpa using hallow))
          (fun e he => enrolling_set hi rfl hleave he) rfl
    | waiting => exact hother (by simp [hp])
    | challenged pa => exact hother (by simp [hp])
    | lostRace v => exact hother (by simp [hp])
    | enrolled v => exact hother (by simp [hp])
    | joining q => exact hother (by simp [hp])
    | closed => exact hother (by simp [hp])
  · exact h

lemma clearPending_separate (h : Separate s) : Separate (s.withConn i s.clearPending) := by
  rw [withConn]
  split
  · rename_i c hi
    rw [clearPending]
    split
    · rename_i v hp
      rintro e ⟨⟨x, hx⟩, ⟨y, hy⟩⟩
      have hne : e ≠ v.pending.deviceId := by
        rintro rfl
        change (s.pending.remove _).get _ = _ at hx
        rw [FiniteMap.get_remove_self] at hx
        cases hx
      obtain ⟨b, hb, w, hw, he⟩ := h e ⟨⟨x, FiniteMap.get_of_remove hx⟩, ⟨y, hy⟩⟩
      -- The connection that enrolled `e` is not this one, which enrolled another device.
      obtain ⟨j, hj⟩ := List.mem_iff_getElem?.mp hb
      have hij : i ≠ j := by
        rintro rfl
        rw [hi] at hj
        cases hj
        rw [hp] at hw
        cases hw
        exact hne he.symm
      exact ⟨b, List.mem_iff_getElem?.mpr ⟨j, by rw [List.getElem?_set_ne hij, hj]⟩, w, hw, he⟩
    · exact h.same rfl rfl (fun d hd => enrolling_set hi rfl (fun v hv => hv) hd)
  · exact h

end Conns

lemma dropDevice_fields (d : String) : (s.dropDevice d).conns = s.conns ∧
    (s.dropDevice d).pending = s.pending ∧ (s.dropDevice d).tasks = s.tasks ∧
    (s.dropDevice d).answers = s.answers ∧
    ∀ e, (s.dropDevice d).registry.entryOf e = if e = d then none else s.registry.entryOf e := by
  rw [dropDevice]
  split
  · rename_i registry h
    exact ⟨rfl, rfl, rfl, rfl, fun e => entryOf_remove (revoke_devices h)⟩
  · rename_i err h
    refine ⟨rfl, rfl, rfl, rfl, fun e => ?_⟩
    rw [DeviceRegistry.revoke] at h
    split_ifs at h with hk
    split_ifs with he
    · subst he
      rw [DeviceRegistry.entryOf]
      simpa [FiniteMap.contains] using hk
    · rfl

lemma Separate.dropped (h : Separate s) (tasks : List AdminTask) (d : String) :
    Separate (({ s with tasks := tasks }).dropDevice d) := by
  obtain ⟨hconns, hpending, _, _, hentry⟩ := dropDevice_fields (s := { s with tasks := tasks }) d
  apply h.thinned hconns
  · intro e x hx
    rw [hpending] at hx
    exact ⟨x, hx⟩
  · intro e x hx
    rw [hentry] at hx
    split_ifs at hx
    exact ⟨x, hx⟩

lemma resumeTask_separate {k : ℕ} {saved : Bool} (h : Separate s)
    (hc : Coherent crypto s (.resumeTask k saved)) : Separate (s.resumeTask crypto k saved) := by
  rw [Coherent] at hc
  rw [resumeTask]
  dsimp only
  split
  · exact h
  · split_ifs
    · exact h.same rfl rfl (fun _ hd => hd)
    · exact (h.dropped _ _).same rfl rfl (fun _ hd => hd)
  · exact h.same rfl rfl (fun _ hd => hd)
  · exact h.same rfl rfl (fun _ hd => hd)
  · rename_i d e name hk
    simp only [hk] at hc
    split
    · rename_i registry he
      obtain ⟨_, _, rfl⟩ := DeviceRegistry.enrollAuto_eq_ok.1 he
      exact h.registered rfl rfl (hc _ he) rfl
    · exact h.same rfl rfl (fun _ hd => hd)
  · split_ifs
    · exact h.same rfl rfl (fun _ hd => hd)
    · exact h.dropped _ _
  · rename_i d e r hk
    simp only [hk] at hc
    exact h.awaiting rfl hc (fun _ hd => hd) rfl

lemma registerDevice_separate {secret : Option String} {fresh : String} (h : Separate s)
    (hc : Coherent crypto s (.registerDevice d secret fresh)) :
    Separate (s.registerDevice crypto d secret fresh) := by
  rw [registerDevice]
  split
  · exact h.same rfl rfl (fun _ hd => hd)
  · rename_i hv
    split
    · rename_i registry hash given hr
      obtain ⟨entry, he⟩ := registerWithSecret_devices hr
      exact h.registered rfl rfl (hc hv _ hr) he
    · exact h.same rfl rfl (fun _ hd => hd)

lemma revokeDevice_separate (h : Separate s) : Separate (s.revokeDevice d) := by
  rw [revokeDevice]
  split
  · rename_i registry hr
    refine h.thinned rfl (fun e x hx => ⟨x, hx⟩) ?_
    intro e x hx
    rw [entryOf_remove (revoke_devices hr)] at hx
    split_ifs at hx
    exact ⟨x, hx⟩
  · exact h.same rfl rfl (fun _ hd => hd)

lemma resetDeviceSecret_separate {fresh : String} (h : Separate s) :
    Separate (s.resetDeviceSecret crypto d fresh) := by
  rw [resetDeviceSecret]
  split
  · rename_i registry _ secret hr
    obtain ⟨hold, entry, he⟩ := resetSecret_devices hr
    refine h.thinned rfl (fun e x hx => ⟨x, hx⟩) ?_
    intro e x hx
    rw [entryOf_set he] at hx
    split_ifs at hx with hed
    · exact hed ▸ hold
    · exact ⟨x, hx⟩
  · exact h.same rfl rfl (fun _ hd => hd)

lemma approvePendingDevice_separate {name : Option String} (h : Separate s) :
    Separate (s.approvePendingDevice d name) := by
  rw [approvePendingDevice]
  split
  · exact h.same rfl rfl (fun _ hd => hd)
  · split
    · refine h.thinned rfl ?_ (fun e x hx => ⟨x, hx⟩)
      intro e x hx
      exact ⟨x, FiniteMap.get_of_remove hx⟩
    · exact h.same rfl rfl (fun _ hd => hd)

lemma receive_enrolled {c : AuthConn} {v : VerifiedAuth} (h : c.phase = .enrolled v)
    (msg : SignalingMessage) (nonce : List UInt8) :
    receive crypto s.registry c msg nonce = c := by
  simp [receive, h]

theorem Separate.step (h : Separate s) {a : AuthAction} (hc : Coherent crypto s a) :
    Separate (s.step crypto a) := by
  cases a with
  | connect peerId account =>
    refine h.same rfl rfl ?_
    rintro d ⟨c, hcm, hv⟩
    exact ⟨c, List.mem_append_left _ hcm, hv⟩
  | text i msg nonce =>
    apply withConn_same _ _ h
    intro c v hv
    rw [receive_enrolled hv, hv]
  | timeout i =>
    apply withConn_same _ _ h
    intro c v hv
    simp only [elapsed, hv]
  | hangUp i =>
    apply withConn_same _ _ h
    intro c v hv
    simp only [streamEnd, hv]
  | policyGate i => exact policyGate_separate h hc
  | recheck i =>
    apply withConn_same _ _ h
    intro c v hv
    simp only [recheck, hv]
  | clearPending i => exact clearPending_separate h
  | registerDevice d secret fresh => exact registerDevice_separate h hc
  | revokeDevice d => exact revokeDevice_separate h
  | resetDeviceSecret d fresh => exact resetDeviceSecret_separate h
  | approvePendingDevice d name => exact approvePendingDevice_separate h
  | resumeTask k saved => exact resumeTask_separate h hc
  | tick nowMs => exact h.same rfl rfl (fun _ hd => hd)

lemma disjoint_of_idle (h : Separate s) (hi : Idle s) (d : String) :
    s.pending.get d = none ∨ s.registry.entryOf d = none := by
  by_contra hno
  rw [not_or, ← ne_eq, ← ne_eq, Option.ne_none_iff_exists', Option.ne_none_iff_exists'] at hno
  obtain ⟨c, hc, v, hv, _⟩ := h d hno
  exact (hi.2 c hc v).2.2 hv

section Approval

variable {i k : ℕ} {a : AuthAction} {name : Option String} {e : PendingEntry}

def about (s : AuthServer) (d : String) : List AdminTask := s.tasks.filter (fun t => t.device = d)

/-- The action does not start another operation on the device, and no connection changes the
tables for it. -/
def Undisturbed (d : String) (s : AuthServer) : AuthAction → Prop
  | .registerDevice e _ _ => e ≠ d
  | .revokeDevice e => e ≠ d
  | .resetDeviceSecret e _ => e ≠ d
  | .approvePendingDevice e _ => e ≠ d
  | .policyGate i => ∀ c v, s.conns[i]? = some c → c.phase = .verified v → v.pending.deviceId ≠ d
  | .clearPending i => ∀ c v, s.conns[i]? = some c → c.phase = .enrolled v → v.pending.deviceId ≠ d
  | _ => True

def OnTime (s : AuthServer) : AuthAction → Prop
  | .resumeTask k _ =>
      match s.tasks[k]? with
      | some (.restoring _ e _) => s.clock = e.firstSeenMs
      | _ => True
  | _ => True

structure Frame (d : String) (s t : AuthServer) : Prop where
  pending : t.pending.get d = s.pending.get d
  entry : t.registry.entryOf d = s.registry.entryOf d
  about : t.about d = s.about d
  answers : s.answers <+: t.answers

lemma Frame.refl (s : AuthServer) : Frame d s s := ⟨rfl, rfl, rfl, List.prefix_rfl⟩

lemma Frame.trans {u : AuthServer} (h : Frame d s t) (g : Frame d t u) : Frame d s u :=
  ⟨g.pending.trans h.pending, g.entry.trans h.entry, g.about.trans h.about,
    h.answers.trans g.answers⟩

lemma reply_frame (r : AdminReply) : Frame d s (s.reply r) :=
  ⟨rfl, rfl, rfl, List.prefix_append _ _⟩

lemma withConn_frame {f : AuthConn → AuthServer × AuthConn}
    (h : ∀ c, s.conns[i]? = some c → Frame d s (f c).1) : Frame d s (s.withConn i f) := by
  rw [withConn]
  split
  · rename_i c hc
    obtain ⟨hp, he, ha, hans⟩ := h c hc
    exact ⟨hp, he, ha, hans⟩
  · exact Frame.refl s

lemma about_push (task : AdminTask) (h : task.device ≠ d) {t : AuthServer}
    (ht : t.tasks = s.tasks ++ [task]) : t.about d = s.about d := by
  rw [about, ht, List.filter_append]
  simp [about, h]

lemma policyGate_frame {c : AuthConn}
    (h : ∀ v, c.phase = .verified v → v.pending.deviceId ≠ d) : Frame d s (s.policyGate crypto c).1 := by
  rw [policyGate]
  split
  · rename_i v hp
    have hne := (h v hp).symm
    dsimp only
    split_ifs
    · split
      · rename_i registry he
        obtain ⟨_, _, rfl⟩ := DeviceRegistry.enrollAuto_eq_ok.1 he
        refine ⟨rfl, ?_, rfl, List.prefix_rfl⟩
        rw [entryOf_set rfl, if_neg hne]
      · exact Frame.refl s
      · exact Frame.refl s
    · exact ⟨FiniteMap.get_set_ne _ _ hne, rfl, rfl, List.prefix_rfl⟩
  · exact Frame.refl s

lemma clearPending_frame {c : AuthConn}
    (h : ∀ v, c.phase = .enrolled v → v.pending.deviceId ≠ d) : Frame d s (s.clearPending c).1 := by
  rw [clearPending]
  split
  · rename_i v hp
    exact ⟨FiniteMap.get_remove_ne _ (h v hp).symm, rfl, rfl, List.prefix_rfl⟩
  · exact Frame.refl s

lemma registerDevice_frame {e : String} {secret : Option String} {fresh : String} (h : e ≠ d) :
    Frame d s (s.registerDevice crypto e secret fresh) := by
  rw [registerDevice]
  split
  · exact reply_frame _
  · split
    · rename_i registry hash given hr
      obtain ⟨entry, he⟩ := registerWithSecret_devices hr
      refine ⟨rfl, ?_, about_push (.registered e given hash) h rfl, List.prefix_rfl⟩
      rw [entryOf_set he, if_neg h.symm]
    · exact reply_frame _

lemma revokeDevice_frame {e : String} (h : e ≠ d) : Frame d s (s.revokeDevice e) := by
  rw [revokeDevice]
  split
  · rename_i registry hr
    refine ⟨rfl, ?_, about_push (.revoked e) h rfl, List.prefix_rfl⟩
    rw [entryOf_remove (revoke_devices hr), if_neg h.symm]
  · exact reply_frame _

lemma resetDeviceSecret_frame {e fresh : String} (h : e ≠ d) :
    Frame d s (s.resetDeviceSecret crypto e fresh) := by
  rw [resetDeviceSecret]
  split
  · rename_i registry _ secret hr
    obtain ⟨_, entry, he⟩ := resetSecret_devices hr
    refine ⟨rfl, ?_, about_push (.secretReset e secret) h rfl, List.prefix_rfl⟩
    rw [entryOf_set he, if_neg h.symm]
  · exact reply_frame _

lemma approvePendingDevice_frame {e : String} {name : Option String} (h : e ≠ d) :
    Frame d s (s.approvePendingDevice e name) := by
  rw [approvePendingDevice]
  split
  · exact reply_frame _
  · split
    · rename_i x hx
      exact ⟨FiniteMap.get_remove_ne _ h.symm, rfl, about_push (.taken e x name) h rfl, List.prefix_rfl⟩
    · exact reply_frame _

lemma filter_split {l : List AdminTask} {x : AdminTask} (h : l[k]? = some x) (p : AdminTask → Bool) :
    l.filter p = (l.take k).filter p ++ ([x].filter p ++ (l.drop (k + 1)).filter p) ∧
      (l.eraseIdx k).filter p = (l.take k).filter p ++ (l.drop (k + 1)).filter p ∧
      ∀ y, (l.set k y).filter p = (l.take k).filter p ++ ([y].filter p ++ (l.drop (k + 1)).filter p) := by
  obtain ⟨hk, hx⟩ := List.getElem?_eq_some_iff.mp h
  refine ⟨?_, ?_, fun y => ?_⟩
  · rw [← List.filter_append, ← List.filter_append, ← hx, List.singleton_append,
      List.getElem_cons_drop, List.take_append_drop]
  · rw [← List.filter_append, List.eraseIdx_eq_take_drop_succ]
  · rw [← List.filter_append, ← List.filter_append, List.singleton_append,
      List.set_eq_take_append_cons_drop, if_pos hk]

lemma about_resume {task : AdminTask} (h : s.tasks[k]? = some task) (hd : task.device ≠ d) :
    (s.tasks.eraseIdx k).filter (fun t => t.device = d) = s.about d ∧
      ∀ y : AdminTask, y.device = task.device →
        (s.tasks.set k y).filter (fun t => t.device = d) = s.about d := by
  obtain ⟨hall, herase, hset⟩ := filter_split h (fun t => t.device = d)
  have hx : [task].filter (fun t => t.device = d) = [] := by simp [hd]
  refine ⟨?_, fun y hy => ?_⟩
  · rw [about, hall, herase, hx, List.nil_append]
  · have hy : [y].filter (fun t => t.device = d) = [] := by simp [hy, hd]
    rw [about, hall, hset, hx, hy]

lemma about_own {task own : AdminTask} (h : s.tasks[k]? = some task) (hd : task.device = d)
    (ha : s.about d = [own]) :
    task = own ∧ (s.tasks.eraseIdx k).filter (fun t => t.device = d) = [] ∧
      ∀ y : AdminTask, y.device = d → (s.tasks.set k y).filter (fun t => t.device = d) = [y] := by
  obtain ⟨hall, herase, hset⟩ := filter_split h (fun t => t.device = d)
  have hx : [task].filter (fun t => t.device = d) = [task] := by simp [hd]
  rw [about, hall, hx, List.singleton_append] at ha
  obtain ⟨hl, hr⟩ : (s.tasks.take k).filter (fun t => t.device = d) = [] ∧
      task :: (s.tasks.drop (k + 1)).filter (fun t => t.device = d) = [own] := by
    cases hl : (s.tasks.take k).filter (fun t => t.device = d) with
    | nil => exact ⟨rfl, by rwa [hl] at ha⟩
    | cons b bs =>
      rw [hl] at ha
      simp at ha
  cases hr' : (s.tasks.drop (k + 1)).filter (fun t => t.device = d) with
  | nil =>
    rw [hr'] at hr
    cases hr
    refine ⟨rfl, by rw [herase, hl, hr', List.nil_append], fun y hy => ?_⟩
    have hy : [y].filter (fun t => t.device = d) = [y] := by simp [hy]
    rw [hset, hl, hr', hy]
    rfl
  | cons b bs =>
    rw [hr'] at hr
    simp at hr

lemma resumeTask_frame {saved : Bool}
    (h : ∀ task, s.tasks[k]? = some task → task.device ≠ d) :
    Frame d s (s.resumeTask crypto k saved) := by
  have hdrop : ∀ (t : AuthServer) (e : String), e ≠ d → Frame d t (t.dropDevice e) := by
    intro t e he
    obtain ⟨_, hp, ht, ha, hr⟩ := dropDevice_fields (s := t) e
    refine ⟨by rw [hp], by rw [hr, if_neg he.symm], by rw [about, ht]; rfl, by rw [ha]⟩
  have hfinish : ∀ {task}, s.tasks[k]? = some task →
      Frame d s { s with tasks := s.tasks.eraseIdx k } := by
    intro task hk
    exact ⟨rfl, rfl, (about_resume hk (h task hk)).1, List.prefix_rfl⟩
  have hbecome : ∀ {task} y, s.tasks[k]? = some task → y.device = task.device →
      Frame d s { s with tasks := s.tasks.set k y } := by
    intro task y hk hy
    exact ⟨rfl, rfl, (about_resume hk (h task hk)).2 y hy, List.prefix_rfl⟩
  rw [resumeTask]
  dsimp only
  split
  · exact Frame.refl s
  · rename_i e secret hash hk
    split_ifs
    · exact (hfinish hk).trans (reply_frame _)
    · exact ((hfinish hk).trans (hdrop _ e (h _ hk))).trans (reply_frame _)
  · rename_i e hk
    exact (hfinish hk).trans (reply_frame _)
  · rename_i e secret hk
    exact (hfinish hk).trans (reply_frame _)
  · rename_i e x name hk
    have hne : e ≠ d := h _ hk
    split
    · rename_i registry he
      obtain ⟨_, _, rfl⟩ := DeviceRegistry.enrollAuto_eq_ok.1 he
      refine (hbecome (.admitted e x name) hk rfl).trans ⟨rfl, ?_, rfl, List.prefix_rfl⟩
      rw [entryOf_set rfl, if_neg hne.symm]
    · exact hbecome _ hk rfl
  · rename_i e x name hk
    split_ifs
    · exact (hfinish hk).trans (reply_frame _)
    · exact (hbecome (.restoring e x (.writeFailed e)) hk rfl).trans (hdrop _ e (h _ hk))
  · rename_i e x r hk
    have hne : e ≠ d := h _ hk
    refine (hfinish hk).trans ⟨FiniteMap.get_set_ne _ _ hne.symm, rfl, rfl, List.prefix_append _ _⟩

lemma step_frame (hu : Undisturbed d s a)
    (hr : ∀ k saved, a = .resumeTask k saved → ∀ task, s.tasks[k]? = some task → task.device ≠ d) :
    Frame d s (s.step crypto a) := by
  cases a with
  | connect peerId account => exact ⟨rfl, rfl, rfl, List.prefix_rfl⟩
  | text i msg nonce => exact withConn_frame (fun c _ => Frame.refl s)
  | timeout i => exact withConn_frame (fun c _ => Frame.refl s)
  | hangUp i => exact withConn_frame (fun c _ => Frame.refl s)
  | policyGate i => exact withConn_frame (fun c hc => policyGate_frame (fun v hv => hu c v hc hv))
  | recheck i => exact withConn_frame (fun c _ => Frame.refl s)
  | clearPending i => exact withConn_frame (fun c hc => clearPending_frame (fun v hv => hu c v hc hv))
  | registerDevice e secret fresh => exact registerDevice_frame hu
  | revokeDevice e => exact revokeDevice_frame hu
  | resetDeviceSecret e fresh => exact resetDeviceSecret_frame hu
  | approvePendingDevice e name => exact approvePendingDevice_frame hu
  | resumeTask k saved => exact resumeTask_frame (hr k saved rfl)
  | tick nowMs => exact ⟨rfl, rfl, rfl, List.prefix_rfl⟩

/-- Where an approval stands: its task, the tables, and in the end whether it was approved. The
entry `r₀` and the pending entry `e` are what it found. -/
inductive ApproveAt (d : String) (e : PendingEntry) (name : Option String) (r₀ : Option Entry)
    (base : ℕ) (s : AuthServer) : Prop
  | taken (task : s.about d = [.taken d e name]) (pending : s.pending.get d = none)
      (entry : s.registry.entryOf d = r₀)
  | admitted (task : s.about d = [.admitted d e name]) (pending : s.pending.get d = none)
      (fresh : r₀ = none)
  | restoring (reply : AdminReply) (task : s.about d = [.restoring d e reply])
      (entry : s.registry.entryOf d = r₀)
  | restored (task : s.about d = []) (pending : s.pending.get d = some e)
      (entry : s.registry.entryOf d = r₀)
  | approved (task : s.about d = []) (reply : .approved d e.vk name ∈ s.answers.drop base)

lemma ApproveAt.frame {r₀ : Option Entry} {base : ℕ} (h : ApproveAt d e name r₀ base s)
    (hf : Frame d s t) : ApproveAt d e name r₀ base t := by
  cases h with
  | taken task pending entry =>
    exact .taken (hf.about.trans task) (hf.pending.trans pending) (hf.entry.trans entry)
  | admitted task pending fresh =>
    exact .admitted (hf.about.trans task) (hf.pending.trans pending) fresh
  | restoring reply task entry => exact .restoring reply (hf.about.trans task) (hf.entry.trans entry)
  | restored task pending entry =>
    exact .restored (hf.about.trans task) (hf.pending.trans pending) (hf.entry.trans entry)
  | approved task reply =>
    refine .approved (hf.about.trans task) ?_
    obtain ⟨more, hmore⟩ := hf.answers
    rw [← hmore, List.drop_append]
    exact List.mem_append_left _ reply

lemma ApproveAt.resume {r₀ : Option Entry} {base : ℕ} {saved : Bool} {task : AdminTask}
    (h : ApproveAt d e name r₀ base s) (hbase : base ≤ s.answers.length)
    (hk : s.tasks[k]? = some task) (hd : task.device = d) (ht : OnTime s (.resumeTask k saved)) :
    ApproveAt d e name r₀ base (s.resumeTask crypto k saved) := by
  have hnil : s.about d ≠ [] := by
    intro hn
    have hm : task ∈ s.about d :=
      List.mem_filter.mpr ⟨List.mem_iff_getElem?.mpr ⟨k, hk⟩, decide_eq_true hd⟩
    rw [hn] at hm
    cases hm
  cases h with
  | taken own pending entry =>
    obtain ⟨rfl, herase, hset⟩ := about_own hk hd own
    rw [resumeTask]
    simp only [hk]
    split
    · rename_i registry he
      obtain ⟨_, hnone, rfl⟩ := DeviceRegistry.enrollAuto_eq_ok.1 he
      exact .admitted (hset _ rfl) pending (entry.symm.trans hnone)
    · exact .restoring _ (hset _ rfl) entry
  | admitted own pending fresh =>
    obtain ⟨rfl, herase, hset⟩ := about_own hk hd own
    rw [resumeTask]
    simp only [hk]
    split_ifs
    · refine .approved herase ?_
      change _ ∈ (s.answers ++ [_]).drop base
      rw [List.drop_append_of_le_length hbase]
      exact List.mem_append_right _ (List.mem_singleton_self _)
    · obtain ⟨_, _, htasks, _, hentry⟩ := dropDevice_fields
        (s := { s with tasks := s.tasks.set k (.restoring d e (.writeFailed d)) }) d
      refine .restoring (.writeFailed d) ?_ ?_
      · rw [about, htasks]
        exact hset _ rfl
      · rw [hentry, if_pos rfl, fresh]
  | restoring reply own entry =>
    obtain ⟨rfl, herase, hset⟩ := about_own hk hd own
    rw [OnTime] at ht
    simp only [hk] at ht
    rw [resumeTask]
    simp only [hk]
    refine .restored herase ?_ entry
    change (s.pending.insert s.clock d e.vk e.verified).get d = some e
    rw [PendingTable.insert, FiniteMap.get_set_self, ht]
  | restored own => exact absurd own hnil
  | approved own => exact absurd own hnil

lemma resumeTask_answers (k : ℕ) (saved : Bool) :
    s.answers <+: (s.resumeTask crypto k saved).answers := by
  have hdrop : ∀ (t : AuthServer) e, (t.dropDevice e).answers = t.answers :=
    fun t e => (dropDevice_fields (s := t) e).2.2.2.1
  rw [resumeTask]
  dsimp only
  split
  · exact List.prefix_rfl
  · split_ifs
    · exact List.prefix_append _ _
    · change _ <+: (dropDevice _ _).answers ++ [_]
      rw [hdrop]
      exact List.prefix_append _ _
  · exact List.prefix_append _ _
  · exact List.prefix_append _ _
  · split <;> exact List.prefix_rfl
  · split_ifs
    · exact List.prefix_append _ _
    · rw [hdrop]
  · exact List.prefix_append _ _

lemma ApproveAt.step {r₀ : Option Entry} {base : ℕ} (h : ApproveAt d e name r₀ base s)
    (hbase : base ≤ s.answers.length) (hu : Undisturbed d s a) (ht : OnTime s a) :
    ApproveAt d e name r₀ base (s.step crypto a) ∧ base ≤ (s.step crypto a).answers.length := by
  by_cases hown : ∃ k saved task, a = .resumeTask k saved ∧ s.tasks[k]? = some task ∧ task.device = d
  · obtain ⟨k, saved, task, rfl, hk, hd⟩ := hown
    exact ⟨h.resume hbase hk hd ht, hbase.trans (resumeTask_answers k saved).length_le⟩
  · have hf : Frame d s (s.step crypto a) := by
      apply step_frame hu
      intro k saved ha task hk hd
      exact hown ⟨k, saved, task, ha, hk, hd⟩
    exact ⟨h.frame hf, hbase.trans hf.answers.length_le⟩

lemma quiet_run {bs : List AuthAction} (hs : s.about d = [])
    (h : Along (AuthServer.step crypto) (fun t b => Undisturbed d t b ∧ OnTime t b) s bs) :
    Frame d s (run (AuthServer.step crypto) s bs) := by
  induction bs generalizing s with
  | nil => exact Frame.refl s
  | cons b bs ih =>
    have hf : Frame d s (s.step crypto b) := by
      apply step_frame h.1.1
      intro k saved _ task hk hd
      have hm : task ∈ s.about d :=
        List.mem_filter.mpr ⟨List.mem_iff_getElem?.mpr ⟨k, hk⟩, decide_eq_true hd⟩
      rw [hs] at hm
      cases hm
    exact hf.trans (ih (hf.about.trans hs) h.2)

lemma approve_failed {bs : List AuthAction} (hs : s.about d = [])
    (h : Along (AuthServer.step crypto) (fun t b => Undisturbed d t b ∧ OnTime t b)
      (s.step crypto (.approvePendingDevice d name)) bs)
    (hdone : (run (AuthServer.step crypto) s (.approvePendingDevice d name :: bs)).about d = [])
    (hfailed : ∀ vk n, .approved d vk n ∉
      (run (AuthServer.step crypto) s (.approvePendingDevice d name :: bs)).answers.drop
        s.answers.length) :
    let t := run (AuthServer.step crypto) s (.approvePendingDevice d name :: bs)
    t.pending.get d = s.pending.get d ∧ t.registry.entryOf d = s.registry.entryOf d := by
  intro t
  have hrefused : ∀ r, s.step crypto (.approvePendingDevice d name) = s.reply r →
      t.pending.get d = s.pending.get d ∧ t.registry.entryOf d = s.registry.entryOf d := by
    intro r hr
    rw [hr] at h
    have hf := quiet_run (s := s.reply r) hs h
    have ht : t = run (AuthServer.step crypto) (s.reply r) bs := by
      change run _ (s.step crypto _) bs = _
      rw [hr]
    rw [ht]
    exact ⟨hf.pending, hf.entry⟩
  cases hv : validateDeviceId d with
  | error r =>
    apply hrefused r
    simp only [step, approvePendingDevice, hv]
  | ok u =>
    cases hp : s.pending.get d with
    | none =>
      rw [← hp]
      exact hrefused _ (by simp only [step, approvePendingDevice, hv, hp]; rfl)
    | some e =>
      have hstart : ApproveAt d e name (s.registry.entryOf d) s.answers.length
          (s.step crypto (.approvePendingDevice d name)) := by
        have he : s.step crypto (.approvePendingDevice d name) =
            { s with pending := s.pending.remove d, tasks := s.tasks ++ [.taken d e name] } := by
          simp only [step, approvePendingDevice, hv, hp]
        rw [he]
        refine .taken ?_ (FiniteMap.get_remove_self _ _) rfl
        change (s.tasks ++ [_]).filter _ = _
        rw [List.filter_append]
        change s.about d ++ _ = _
        rw [hs]
        simp [AdminTask.device]
      have hlen : s.answers.length ≤ (s.step crypto (.approvePendingDevice d name)).answers.length := by
        simp only [step, approvePendingDevice, hv, hp, le_refl]
      have hend := run_invariant (I := fun t => ApproveAt d e name (s.registry.entryOf d)
        s.answers.length t ∧ s.answers.length ≤ t.answers.length) ⟨hstart, hlen⟩
        (fun t b hi hb => hi.1.step hi.2 hb.1 hb.2) h
      cases hend.1 with
      | taken task => exact absurd (hdone.symm.trans task) (by simp)
      | admitted task => exact absurd (hdone.symm.trans task) (by simp)
      | restoring _ task => exact absurd (hdone.symm.trans task) (by simp)
      | restored _ pending entry => exact ⟨pending, entry⟩
      | approved _ reply => exact absurd reply (hfailed _ _)

end Approval

end AuthServer

open AuthServer

theorem pending_registered_disjoint (crypto : Crypto) (devices : FiniteMap String Entry) (u : Uuid)
    (allow : Bool) (acts : List AuthAction)
    (h : Along (step crypto) (Coherent crypto) (start crypto devices u allow) acts) :
    let s := run (step crypto) (start crypto devices u allow) acts
    (Idle s → ∀ d, s.pending.get d = none ∨ s.registry.entryOf d = none) ∧
      ∀ d name bs, s.about d = [] →
        Along (step crypto) (fun t b => Undisturbed d t b ∧ OnTime t b)
          (s.step crypto (.approvePendingDevice d name)) bs →
        let t := run (step crypto) s (.approvePendingDevice d name :: bs)
        t.about d = [] → (∀ vk n, .approved d vk n ∉ t.answers.drop s.answers.length) →
          t.pending.get d = s.pending.get d ∧ t.registry.entryOf d = s.registry.entryOf d := by
  intro s
  constructor
  · have hstart : Separate (start crypto devices u allow) := by
      rintro d ⟨⟨e, he⟩, _⟩
      cases he
    have hs : Separate s := run_invariant (I := Separate) hstart (fun t a ht hc => ht.step hc) h
    exact disjoint_of_idle hs
  · intro d name bs hs hb t hdone hfailed
    exact approve_failed hs hb hdone hfailed

namespace EnrollRace

def secretDigest : List UInt8 :=
  [116, 214, 15, 102, 250, 126, 163, 134, 121, 115, 218, 149, 24, 242, 20, 227, 238, 215, 63, 34,
    182, 136, 65, 46, 47, 208, 108, 212, 240, 121, 139, 251]

def adminCrypto : Crypto where
  __ := raceCrypto
  sha256 bytes :=
    if bytes = asBytes "ms-0a1b2c3d4e5f:front-cam-secret" then secretDigest
    else raceCrypto.sha256 bytes

def reportRun : List AuthAction :=
  [.tick 1760000000000, .connect "p0" none, .text 0 joinMsg nonceA,
    .text 0 (.deviceAuthResponse "room-1" sigTextA) [], .policyGate 0]

def registerRun : List AuthAction :=
  reportRun ++ [.registerDevice "ms-0a1b2c3d4e5f" (some "front-cam-secret") "", .resumeTask 0 true]

def failedSave : List AuthAction := [.resumeTask 0 true, .resumeTask 0 false, .resumeTask 0 true]

end EnrollRace

open EnrollRace

theorem pending_registered_disjoint_failed_save :
    let s := run (step adminCrypto) (start adminCrypto ∅ raceUuid false) reportRun
    let t := run (step adminCrypto) s (.approvePendingDevice "ms-0a1b2c3d4e5f" none :: failedSave)
    s.registry.entryOf "ms-0a1b2c3d4e5f" = none ∧
      t.pending.get "ms-0a1b2c3d4e5f" = some ⟨keyText, 1760000000000, true⟩ ∧
      t.registry.entryOf "ms-0a1b2c3d4e5f" = none := by
  have hreport : Along (step adminCrypto) (Coherent adminCrypto)
      (start adminCrypto ∅ raceUuid false) reportRun := by
    refine ⟨trivial, trivial, trivial, trivial, ?_, trivial⟩
    intro c v _ _ _
    rfl
  have hsave : Along (step adminCrypto)
      (fun t b => Undisturbed "ms-0a1b2c3d4e5f" t b ∧ OnTime t b)
      ((run (step adminCrypto) (start adminCrypto ∅ raceUuid false) reportRun).step adminCrypto
        (.approvePendingDevice "ms-0a1b2c3d4e5f" none)) failedSave :=
    ⟨⟨trivial, trivial⟩, ⟨trivial, trivial⟩, ⟨trivial, rfl⟩, trivial⟩
  obtain ⟨hdisjoint, hfailed⟩ :=
    pending_registered_disjoint adminCrypto ∅ raceUuid false reportRun hreport
  intro s t
  have hidle : Idle s := by
    have hclosed : ∀ c ∈ s.conns, c.phase = .closed := by decide
    refine ⟨by decide, ?_⟩
    intro c hc v
    simp [hclosed c hc]
  have hpending : s.pending.get "ms-0a1b2c3d4e5f" = some ⟨keyText, 1760000000000, true⟩ := by
    decide
  have hnone : s.registry.entryOf "ms-0a1b2c3d4e5f" = none := by
    obtain hn | hn := hdisjoint hidle "ms-0a1b2c3d4e5f"
    · rw [hpending] at hn
      cases hn
    · exact hn
  have hanswer : t.answers.drop s.answers.length = [.writeFailed "ms-0a1b2c3d4e5f"] := by
    decide
  obtain ⟨hp, he⟩ := hfailed "ms-0a1b2c3d4e5f" none failedSave (by decide) hsave
    (by decide) (by
      intro vk n hm
      rw [hanswer] at hm
      simp at hm)
  exact ⟨hnone, hp.trans hpending, he.trans hnone⟩

theorem registered_while_pending :
    ¬ ∀ (crypto : Crypto) (devices : FiniteMap String Entry) (u : Uuid) (allow : Bool)
      (acts : List AuthAction),
      let s := run (step crypto) (start crypto devices u allow) acts
      Idle s → ∀ d, s.pending.get d = none ∨ s.registry.entryOf d = none := by
  intro h
  have hclosed : ∀ c ∈ (run (step adminCrypto) (start adminCrypto ∅ raceUuid false)
      registerRun).conns, c.phase = .closed := by decide
  have hidle : Idle (run (step adminCrypto) (start adminCrypto ∅ raceUuid false) registerRun) := by
    refine ⟨by decide, ?_⟩
    intro c hc v
    simp [hclosed c hc]
  have hboth := h adminCrypto ∅ raceUuid false registerRun hidle "ms-0a1b2c3d4e5f"
  revert hboth
  decide

end MediaServo.Server
