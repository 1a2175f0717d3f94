import MediaServo.Server.DeviceAuth

/-! A connection joins as a device only on a proof that holds against the registry of the
moment: a secret, or a signature under the key registered there. -/

namespace MediaServo.Server

open MediaServo.Foundations MediaServo.Common

def AuthAction.conn : AuthAction → Option ℕ
  | .text i _ _ | .timeout i | .hangUp i | .policyGate i | .recheck i | .clearPending i => some i
  | _ => none

def AuthAction.presented : AuthAction → Option String
  | .text _ (.roomJoin _ _ _ deviceId _ _ _ _ _) _ => deviceId
  | _ => none

namespace AuthServer

variable {crypto : Crypto} {s : AuthServer} {a : AuthAction} {i j : ℕ} {c c' : AuthConn}

def handle (crypto : Crypto) (s : AuthServer) (c : AuthConn) : AuthAction → AuthConn
  | .text _ msg nonce => receive crypto s.registry c msg nonce
  | .timeout _ => elapsed c
  | .hangUp _ => streamEnd c
  | .policyGate _ => (s.policyGate crypto c).2
  | .recheck _ => recheck s.registry c
  | .clearPending _ => (s.clearPending c).2
  | _ => c

lemma withConn_get (f : AuthConn → AuthServer × AuthConn) (h : s.conns[j]? = some c) :
    (s.withConn i f).conns[j]? = some (if i = j then (f c).2 else c) := by
  have hj := (List.getElem?_eq_some_iff.mp h).1
  rw [withConn]
  split
  · next c₁ hc =>
    dsimp only
    by_cases hij : i = j
    · subst i
      rw [h] at hc
      cases hc
      rw [List.getElem?_set_self hj, if_pos rfl]
    · rw [List.getElem?_set_ne hij, if_neg hij, h]
  · next hc =>
    rw [if_neg, h]
    rintro rfl
    rw [h] at hc
    cases hc

lemma withConn_length (f : AuthConn → AuthServer × AuthConn) :
    (s.withConn i f).conns.length = s.conns.length := by
  rw [withConn]
  split
  · exact List.length_set
  · rfl

structure Keeps (s t : AuthServer) : Prop where
  conns : t.conns = s.conns
  dummyHash : t.registry.dummyHash = s.registry.dummyHash

lemma revoke_dummyHash {r r' : DeviceRegistry} {d : String} (h : r.revoke d = .ok r') :
    r'.dummyHash = r.dummyHash := by
  rw [DeviceRegistry.revoke] at h
  split_ifs at h
  cases h
  rfl

lemma registerWithSecret_dummyHash {r : DeviceRegistry} {d fresh : String} {secret : Option String}
    {x : DeviceRegistry × String × String} (h : r.registerWithSecret crypto d secret fresh = .ok x) :
    x.1.dummyHash = r.dummyHash := by
  rw [DeviceRegistry.registerWithSecret] at h
  split_ifs at h
  dsimp only at h
  split at h
  · split_ifs at h
    cases h
    rfl
  · cases h
    rfl

lemma resetSecret_dummyHash {r : DeviceRegistry} {d fresh : String}
    {x : DeviceRegistry × String × String} (h : r.resetSecret crypto d fresh = .ok x) :
    x.1.dummyHash = r.dummyHash := by
  rw [DeviceRegistry.resetSecret] at h
  split at h
  · cases h
    rfl
  · cases h

lemma enrollAuto_dummyHash {r r' : DeviceRegistry} {d vk : String} {name : Option String}
    (h : r.enrollAuto crypto d vk name = .ok r') : r'.dummyHash = r.dummyHash := by
  obtain ⟨-, -, rfl⟩ := DeviceRegistry.enrollAuto_eq_ok.1 h
  rfl

lemma dropDevice_keeps (d : String) : Keeps s (s.dropDevice d) := by
  rw [dropDevice]
  split
  · next h => exact ⟨rfl, revoke_dummyHash h⟩
  · exact ⟨rfl, rfl⟩

lemma registerDevice_keeps (d : String) (secret : Option String) (fresh : String) :
    Keeps s (s.registerDevice crypto d secret fresh) := by
  rw [registerDevice]
  split
  · exact ⟨rfl, rfl⟩
  · split
    · next h => exact ⟨rfl, registerWithSecret_dummyHash h⟩
    · exact ⟨rfl, rfl⟩

lemma revokeDevice_keeps (d : String) : Keeps s (s.revokeDevice d) := by
  rw [revokeDevice]
  split
  · next h => exact ⟨rfl, revoke_dummyHash h⟩
  · exact ⟨rfl, rfl⟩

lemma resetDeviceSecret_keeps (d fresh : String) : Keeps s (s.resetDeviceSecret crypto d fresh) := by
  rw [resetDeviceSecret]
  split
  · next h => exact ⟨rfl, resetSecret_dummyHash h⟩
  · exact ⟨rfl, rfl⟩

lemma approvePendingDevice_keeps (d : String) (name : Option String) :
    Keeps s (s.approvePendingDevice d name) := by
  rw [approvePendingDevice]
  split
  · exact ⟨rfl, rfl⟩
  · split <;> exact ⟨rfl, rfl⟩

lemma resumeTask_keeps (k : ℕ) (saved : Bool) : Keeps s (s.resumeTask crypto k saved) := by
  have drop : ∀ (d : String) (tasks : List AdminTask),
      Keeps s (({ s with tasks := tasks }).dropDevice d) := by
    intro d tasks
    exact ⟨(dropDevice_keeps d).conns, (dropDevice_keeps d).dummyHash⟩
  rw [resumeTask]
  dsimp only
  split
  · exact ⟨rfl, rfl⟩
  · split_ifs
    · exact ⟨rfl, rfl⟩
    · exact ⟨(drop _ _).conns, (drop _ _).dummyHash⟩
  · exact ⟨rfl, rfl⟩
  · exact ⟨rfl, rfl⟩
  · split
    · next h => exact ⟨rfl, enrollAuto_dummyHash h⟩
    · exact ⟨rfl, rfl⟩
  · split_ifs
    · exact ⟨rfl, rfl⟩
    · exact drop _ _
  · exact ⟨rfl, rfl⟩

lemma policyGate_dummyHash :
    (s.policyGate crypto c).1.registry.dummyHash = s.registry.dummyHash := by
  rw [policyGate]
  split
  · dsimp only
    split_ifs
    · split
      · next h => exact enrollAuto_dummyHash h
      · rfl
      · rfl
    · rfl
  · rfl

lemma clearPending_dummyHash : (s.clearPending c).1.registry.dummyHash = s.registry.dummyHash := by
  rw [clearPending]
  split <;> rfl

inductive StepCases (crypto : Crypto) (s : AuthServer) (a : AuthAction) : AuthServer → Prop
  | admin {t : AuthServer} : a.conn = none → Keeps s t → StepCases crypto s a t
  | own {k : ℕ} {f : AuthConn → AuthServer × AuthConn} : a.conn = some k →
      (∀ c, (f c).2 = handle crypto s c a) →
      (∀ c, (f c).1.registry.dummyHash = s.registry.dummyHash) →
      StepCases crypto s a (s.withConn k f)
  | new {c : AuthConn} : a.conn = none → c.phase = .waiting →
      StepCases crypto s a { s with conns := s.conns ++ [c] }

lemma step_cases (a : AuthAction) : StepCases crypto s a (s.step crypto a) := by
  cases a with
  | connect peerId account => exact .new rfl rfl
  | text k msg nonce => exact .own rfl (fun _ => rfl) (fun _ => rfl)
  | timeout k => exact .own rfl (fun _ => rfl) (fun _ => rfl)
  | hangUp k => exact .own rfl (fun _ => rfl) (fun _ => rfl)
  | policyGate k => exact .own rfl (fun _ => rfl) (fun _ => policyGate_dummyHash)
  | recheck k => exact .own rfl (fun _ => rfl) (fun _ => rfl)
  | clearPending k => exact .own rfl (fun _ => rfl) (fun _ => clearPending_dummyHash)
  | registerDevice d secret fresh => exact .admin rfl (registerDevice_keeps d secret fresh)
  | revokeDevice d => exact .admin rfl (revokeDevice_keeps d)
  | resetDeviceSecret d fresh => exact .admin rfl (resetDeviceSecret_keeps d fresh)
  | approvePendingDevice d name => exact .admin rfl (approvePendingDevice_keeps d name)
  | resumeTask k saved => exact .admin rfl (resumeTask_keeps k saved)
  | tick nowMs => exact .admin rfl ⟨rfl, rfl⟩

lemma step_conn (a : AuthAction) (h : s.conns[j]? = some c) :
    (s.step crypto a).conns[j]? = some (if a.conn = some j then handle crypto s c a else c) := by
  have hs : StepCases crypto s a (s.step crypto a) := step_cases a
  generalize s.step crypto a = t at hs ⊢
  obtain ⟨ha, hk⟩ | ⟨ha, hf, -⟩ | ⟨ha, -⟩ := hs
  · rw [hk.conns, h, ha, if_neg (by simp)]
  · rw [withConn_get _ h, ha, hf]
    simp only [Option.some.injEq]
  · have hj := (List.getElem?_eq_some_iff.mp h).1
    rw [List.getElem?_append_left hj, h, ha, if_neg (by simp)]

lemma step_new (h : s.conns[j]? = none) (h' : (s.step crypto a).conns[j]? = some c') :
    c'.phase = .waiting := by
  have hs : StepCases crypto s a (s.step crypto a) := step_cases a
  generalize s.step crypto a = t at hs h'
  obtain ⟨-, hk⟩ | ⟨-, -, -⟩ | ⟨-, hw⟩ := hs
  · rw [hk.conns, h] at h'
    cases h'
  · have hj := (List.getElem?_eq_some_iff.mp h').1
    rw [withConn_length, ← not_le, ← List.getElem?_eq_none_iff] at hj
    exact absurd h hj
  · rw [List.getElem?_append_right (List.getElem?_eq_none_iff.mp h), List.getElem?_singleton] at h'
    split_ifs at h'
    cases h'
    exact hw

lemma step_dummyHash : (s.step crypto a).registry.dummyHash = s.registry.dummyHash := by
  have hs : StepCases crypto s a (s.step crypto a) := step_cases a
  generalize s.step crypto a = t at hs ⊢
  obtain ⟨-, hk⟩ | ⟨-, -, hf⟩ | ⟨-, -⟩ := hs
  · exact hk.dummyHash
  · rw [withConn]
    split
    · exact hf _
    · rfl
  · rfl

/-- An action that proves to be device `d` for a room: a presented secret meets the entry of `d`,
or a signature over the nonce sent to the connection, `d` and the room holds under the key that
is registered for `d` when the answer arrives, when the offered key is enrolled, or when it is
compared after a lost race. -/
inductive Authenticates (crypto : Crypto) (s : AuthServer) (i : ℕ) (d room : String) :
    AuthAction → Prop
  | secret {c : AuthConn} {role : PeerRole} {stream version resume : Option String}
      {secret : String} {protocol : Option ℕ} {nonce : List UInt8} :
      s.conns[i]? = some c → c.phase = .waiting →
      s.registry.entryOf d = some (.secret (crypto.hashSecret d secret)) →
      Authenticates crypto s i d room (.text i
        (.roomJoin room role stream (some d) (some secret) none protocol version resume) nonce)
  | registeredKey {c : AuthConn} {pa : PendingAuth} {vk r sig : String} {name : Option String}
      {nonce : List UInt8} :
      s.conns[i]? = some c → c.phase = .challenged pa → .deviceAuthChallenge pa.nonce ∈ c.sent →
      s.registry.entryOf d = some (.publicKey vk name) → crypto.Signed vk pa.nonce d room sig →
      Authenticates crypto s i d room (.text i (.deviceAuthResponse r sig) nonce)
  | enrolledKey {c : AuthConn} {v : VerifiedAuth} :
      s.conns[i]? = some c → c.phase = .verified v →
      .deviceAuthChallenge v.pending.nonce ∈ c.sent →
      (s.step crypto (.policyGate i)).registry.entryOf d = some (.publicKey v.offered none) →
      crypto.Signed v.offered v.pending.nonce d room v.sig →
      Authenticates crypto s i d room (.policyGate i)
  | sameKey {c : AuthConn} {v : VerifiedAuth} {name : Option String} :
      s.conns[i]? = some c → c.phase = .lostRace v →
      .deviceAuthChallenge v.pending.nonce ∈ c.sent →
      s.registry.entryOf d = some (.publicKey v.offered name) →
      crypto.Signed v.offered v.pending.nonce d room v.sig →
      Authenticates crypto s i d room (.recheck i)

variable {s₀ : AuthServer} {acts : List AuthAction}

def Authenticated (crypto : Crypto) (s₀ : AuthServer) (acts : List AuthAction) (i : ℕ)
    (d room : String) : Prop :=
  Happened (step crypto) (fun s a => Authenticates crypto s i d room a) s₀ acts

def Justified (crypto : Crypto) (s₀ : AuthServer) (acts : List AuthAction) (i : ℕ)
    (c : AuthConn) : Prop :=
  match c.phase with
  | .waiting | .closed => True
  | .challenged pa => .deviceAuthChallenge pa.nonce ∈ c.sent
  | .verified v | .lostRace v => .deviceAuthChallenge v.pending.nonce ∈ c.sent ∧
      (crypto.Signed v.offered v.pending.nonce v.pending.deviceId v.pending.roomId v.sig ∨
        Authenticated crypto s₀ acts i v.pending.deviceId v.pending.roomId)
  | .enrolled v => Authenticated crypto s₀ acts i v.pending.deviceId v.pending.roomId
  | .joining q => ∀ d, q.identity = .device d → Authenticated crypto s₀ acts i d q.roomId

lemma Justified.snoc (h : Justified crypto s₀ acts i c) (a : AuthAction) :
    Justified crypto s₀ (acts ++ [a]) i c := by
  rw [Justified] at h ⊢
  split
  · trivial
  · trivial
  · next hp => simpa only [hp] using h
  · next hp =>
    simp only [hp] at h
    exact ⟨h.1, h.2.imp_right (fun hd => hd.snoc a)⟩
  · next hp =>
    simp only [hp] at h
    exact ⟨h.1, h.2.imp_right (fun hd => hd.snoc a)⟩
  · next hp =>
    simp only [hp] at h
    exact h.snoc a
  · next hp =>
    simp only [hp] at h
    exact fun d hd => (h d hd).snoc a

lemma justified_closed (h : c.phase = .closed) : Justified crypto s₀ acts i c := by
  rw [Justified, h]
  trivial

lemma justified_admitAs {identity : SessionIdentity} {room : String} {role : PeerRole}
    (h : ∀ d, identity = .device d → Authenticated crypto s₀ acts i d room) :
    Justified crypto s₀ acts i (c.admitAs identity room role) :=
  h

section Steps

variable (hs : s = run (step crypto) s₀ acts) (hc : s.conns[i]? = some c)

include hs

lemma authenticated_last {d room : String} (h : Authenticates crypto s i d room a) :
    Authenticated crypto s₀ (acts ++ [a]) i d room := by
  apply happened_last
  rw [← hs]
  exact h

include hc

lemma justified_roomJoin (hsha : Function.Injective crypto.sha256) {u : Uuid}
    (hdummy : s.registry.dummyHash = crypto.newDummyHash u) (hw : c.phase = .waiting)
    {room : String} {role : PeerRole} {stream deviceId secret pubkey version resume : Option String}
    {protocol : Option ℕ} {nonce : List UInt8} (hu : deviceId ≠ some (dummyId u)) :
    Justified crypto s₀ (acts ++ [.text i (.roomJoin room role stream deviceId secret pubkey protocol
      version resume) nonce]) i (roomJoin crypto s.registry
        { c with protocol := protocol, resume := resume } nonce room role deviceId secret pubkey) := by
  simp only [roomJoin]
  split
  · exact justified_closed rfl
  cases pubkey with
  | some vk =>
    dsimp only
    split
    · exact justified_closed rfl
    cases deviceId with
    | none => exact justified_closed rfl
    | some d =>
      dsimp only
      simp only [AuthConn.challenge]
      split
      · exact justified_closed rfl
      · exact List.mem_append_right _ (List.mem_singleton_self _)
      · exact List.mem_append_right _ (List.mem_singleton_self _)
  | none =>
    match deviceId, secret with
    | none, none =>
      apply justified_admitAs
      intro d hd
      rw [AuthConn.identity] at hd
      split at hd <;> cases hd
    | none, some secret => exact justified_closed rfl
    | some d, none => exact justified_closed rfl
    | some d, some secret =>
      simp only [DeviceRegistry.authenticate]
      cases hv : s.registry.verify crypto d secret with
      | error e => exact justified_closed rfl
      | ok x =>
        apply justified_admitAs
        intro d' hd'
        cases hd'
        apply authenticated_last hs
        apply Authenticates.secret hc hw
        exact DeviceRegistry.entryOf_of_verify hsha hdummy (fun he => hu (congrArg some he)) hv

lemma justified_answer {pa : PendingAuth} (hp : c.phase = .challenged pa)
    (hsent : .deviceAuthChallenge pa.nonce ∈ c.sent) (r sig : String) (nonce : List UInt8) :
    Justified crypto s₀ (acts ++ [.text i (.deviceAuthResponse r sig) nonce]) i
      (answer crypto s.registry c pa sig) := by
  -- under a registered key this very step authenticates, under the offered one the signature stays
  have key : ∀ {vk}, checkVk s.registry pa = some vk →
      crypto.Signed vk pa.nonce pa.deviceId pa.roomId sig → pa.offeredVk = some vk ∨
        Authenticated crypto s₀ (acts ++ [.text i (.deviceAuthResponse r sig) nonce]) i
          pa.deviceId pa.roomId := by
    intro vk hk hsig
    rw [checkVk] at hk
    split at hk
    · next he =>
      cases hk
      exact Or.inr (authenticated_last hs (.registeredKey hc hp hsent he hsig))
    · exact Or.inl hk
  rw [answer]
  cases hk : checkVk s.registry pa with
  | none => exact justified_closed rfl
  | some vk =>
    dsimp only
    cases hv : crypto.verifySignature vk pa.nonce pa.deviceId pa.roomId sig with
    | error e => exact justified_closed rfl
    | ok x =>
      have hsig := verifySignature_eq_ok.1 hv
      dsimp only
      cases ho : pa.offeredVk with
      | some offered =>
        refine ⟨hsent, ?_⟩
        obtain hvk | hd := key hk hsig
        · left
          rw [ho] at hvk
          cases hvk
          exact hsig
        · exact Or.inr hd
      | none =>
        apply justified_admitAs
        intro d hd
        cases hd
        obtain hvk | hd := key hk hsig
        · rw [ho] at hvk
          cases hvk
        · exact hd

lemma justified_receive (hsha : Function.Injective crypto.sha256) {u : Uuid}
    (hdummy : s.registry.dummyHash = crypto.newDummyHash u) {msg : SignalingMessage}
    {nonce : List UInt8} (hu : (AuthAction.text i msg nonce).presented ≠ some (dummyId u))
    (hj : Justified crypto s₀ acts i c) :
    Justified crypto s₀ (acts ++ [.text i msg nonce]) i (receive crypto s.registry c msg nonce) := by
  simp only [receive]
  split
  · next pa r sig hp =>
    rw [Justified] at hj
    simp only [hp] at hj
    exact justified_answer hs hc hp hj r sig nonce
  · split
    · exact justified_closed rfl
    · exact hj.snoc _
  · next hp => exact justified_roomJoin hs hc hsha hdummy hp hu
  · exact hj.snoc _

lemma justified_policyGate (hj : Justified crypto s₀ acts i c) :
    Justified crypto s₀ (acts ++ [.policyGate i]) i (s.policyGate crypto c).2 := by
  cases hp : c.phase with
  | verified v =>
    rw [Justified] at hj
    simp only [hp] at hj
    rw [policyGate]
    simp only [hp]
    split
    · split
      · next registry he =>
        obtain hsig | hd := hj.2
        · apply authenticated_last hs
          apply Authenticates.enrolledKey hc hp hj.1 _ hsig
          have hg : s.policyGate crypto c =
              ({ s with registry := registry }, { c with phase := .enrolled v }) := by
            rw [policyGate]
            simp_all
          obtain ⟨-, -, hr⟩ := DeviceRegistry.enrollAuto_eq_ok.1 he
          simp only [step, withConn, hc, hg, hr, DeviceRegistry.entryOf, FiniteMap.get_set_self]
        · exact hd.snoc _
      · exact ⟨hj.1, hj.2.imp_right (fun hd => hd.snoc _)⟩
      · exact justified_closed rfl
    · exact justified_closed rfl
  | _ =>
    rw [policyGate]
    simp only [hp]
    exact hj.snoc _

lemma justified_recheck (hj : Justified crypto s₀ acts i c) :
    Justified crypto s₀ (acts ++ [.recheck i]) i (recheck s.registry c) := by
  rw [recheck]
  split
  · next v hp =>
    rw [Justified] at hj
    simp only [hp] at hj
    split
    · next vk name he =>
      split
      · next hvk =>
        apply justified_admitAs
        intro d hd
        cases hd
        subst vk
        obtain hsig | hd := hj.2
        · exact authenticated_last hs (.sameKey hc hp hj.1 he hsig)
        · exact hd.snoc _
      · exact justified_closed rfl
    · exact justified_closed rfl
  · exact hj.snoc _

omit hs hc in
lemma justified_clearPending (hj : Justified crypto s₀ acts i c) :
    Justified crypto s₀ (acts ++ [.clearPending i]) i (s.clearPending c).2 := by
  rw [clearPending]
  split
  · next v hp =>
    rw [Justified] at hj
    simp only [hp] at hj
    apply justified_admitAs
    intro d hd
    cases hd
    exact hj.snoc _
  · exact hj.snoc _

lemma justified_handle (hsha : Function.Injective crypto.sha256) {u : Uuid}
    (hdummy : s.registry.dummyHash = crypto.newDummyHash u) (ha : a.conn = some i)
    (hu : a.presented ≠ some (dummyId u)) (hj : Justified crypto s₀ acts i c) :
    Justified crypto s₀ (acts ++ [a]) i (handle crypto s c a) := by
  cases a with
  | text k msg nonce =>
    cases ha
    exact justified_receive hs hc hsha hdummy hu hj
  | timeout k =>
    change Justified _ _ _ _ (elapsed c)
    rw [elapsed]
    split
    · exact justified_closed rfl
    · exact justified_closed rfl
    · exact hj.snoc _
  | hangUp k =>
    change Justified _ _ _ _ (streamEnd c)
    rw [streamEnd]
    split
    · exact justified_closed rfl
    · exact justified_closed rfl
    · exact hj.snoc _
  | policyGate k =>
    cases ha
    exact justified_policyGate hs hc hj
  | recheck k =>
    cases ha
    exact justified_recheck hs hc hj
  | clearPending k =>
    cases ha
    exact justified_clearPending hj
  | _ => cases ha

end Steps

theorem justified_run (hsha : Function.Injective crypto.sha256) {devices : FiniteMap String Entry}
    {u : Uuid} {allow : Bool} (hu : ∀ a ∈ acts, a.presented ≠ some (dummyId u))
    (hc : (run (step crypto) (start crypto devices u allow) acts).conns[i]? = some c) :
    Justified crypto (start crypto devices u allow) acts i c := by
  let s₀ := start crypto devices u allow
  have key : (run (step crypto) s₀ acts).registry.dummyHash = crypto.newDummyHash u ∧
      ∀ i c, (run (step crypto) s₀ acts).conns[i]? = some c → Justified crypto s₀ acts i c := by
    refine history_invariant (I := fun acts (s : AuthServer) => s.registry.dummyHash = crypto.newDummyHash u ∧
      ∀ i c, s.conns[i]? = some c → Justified crypto s₀ acts i c) ⟨rfl, ?_⟩ ?_ hu
    · intro i c hc
      cases hc
    · rintro as a ha ⟨hdummy, hj⟩
      refine ⟨step_dummyHash.trans hdummy, ?_⟩
      intro i c' hc'
      cases hc : (run (step crypto) s₀ as).conns[i]? with
      | none =>
        rw [Justified, step_new hc hc']
        trivial
      | some c =>
        rw [step_conn a hc] at hc'
        cases hc'
        split_ifs with hi
        · exact justified_handle rfl hc hsha hdummy hi ha (hj i c hc)
        · exact (hj i c hc).snoc a
  exact key.2 i c hc


lemma handle_joining {q : JoinRequest} (h : c.phase = .joining q) : handle crypto s c a = c := by
  cases a <;> simp [handle, receive, elapsed, streamEnd, policyGate, recheck, clearPending, h]

lemma handle_closed (h : c.phase = .closed) : handle crypto s c a = c := by
  cases a <;> simp [handle, receive, elapsed, streamEnd, policyGate, recheck, clearPending, h]

lemma run_settled (h : ∀ (s : AuthServer) a, handle crypto s c a = c) (hc : s.conns[i]? = some c)
    (acts : List AuthAction) : (run (step crypto) s acts).conns[i]? = some c := by
  induction acts generalizing s with
  | nil => exact hc
  | cons a acts ih =>
    apply ih
    rw [step_conn a hc, h, ite_self]

lemma recheck_cases {r : DeviceRegistry} {v : VerifiedAuth} (hp : c.phase = .lostRace v) :
    recheck r c = c.badSecret ∨ recheck r c = c.admitDevice v.pending ∧
      ∃ name, r.entryOf v.pending.deviceId = some (.publicKey v.offered name) := by
  rw [recheck]
  simp only [hp]
  split
  · next vk name he =>
    split_ifs with hvk
    · subst vk
      exact Or.inr ⟨rfl, name, he⟩
    · exact Or.inl rfl
  · exact Or.inl rfl

lemma recheck_joins {v : VerifiedAuth} {q : JoinRequest} (hc : s.conns[i]? = some c)
    (hp : c.phase = .lostRace v)
    (hj : (run (step crypto) s (.recheck i :: acts)).conns[i]? = some c')
    (hq : c'.phase = .joining q) : q.identity = .device v.pending.deviceId ∧
      ∃ name, s.registry.entryOf v.pending.deviceId = some (.publicKey v.offered name) := by
  have hs : (s.step crypto (.recheck i)).conns[i]? = some (recheck s.registry c) := by
    rw [step_conn (.recheck i) hc, AuthAction.conn, if_pos rfl, handle]
  rw [run_cons] at hj
  obtain hr | ⟨hr, hreg⟩ := recheck_cases (r := s.registry) hp
  · rw [hr] at hs
    rw [run_settled (fun t b => handle_closed rfl) hs] at hj
    cases hj
    cases hq
  · rw [hr] at hs
    rw [run_settled (fun t b => handle_joining rfl) hs] at hj
    cases hj
    cases hq
    exact ⟨rfl, hreg⟩

end AuthServer

open AuthServer

/-- In every run, whoever is in the join funnel as a device has proved it against the registry
of that moment; after a lost race to enroll, with the very key that is registered. SHA-256 is
ideal, and nobody guesses the uuid that the dummy hash was drawn from. -/
theorem device_identity_proof (crypto : Crypto) (hsha : Function.Injective crypto.sha256)
    (devices : FiniteMap String Entry) (u : Uuid) (allow : Bool) (acts : List AuthAction)
    (hu : ∀ a ∈ acts, a.presented ≠ some (dummyId u)) (i : ℕ) (c : AuthConn) (q : JoinRequest)
    (d : String)
    (hc : (run (step crypto) (start crypto devices u allow) acts).conns[i]? = some c)
    (hq : c.phase = .joining q) (hd : q.identity = .device d) :
    (∃ before a after, acts = before ++ a :: after ∧
      Authenticates crypto (run (step crypto) (start crypto devices u allow) before) i d q.roomId a) ∧
    ∀ before after c₁ v, acts = before ++ .recheck i :: after →
      (run (step crypto) (start crypto devices u allow) before).conns[i]? = some c₁ →
      c₁.phase = .lostRace v → v.pending.deviceId = d ∧
        ∃ name, (run (step crypto) (start crypto devices u allow) before).registry.entryOf d =
          some (.publicKey v.offered name) := by
  constructor
  · have hj := justified_run hsha hu hc
    rw [Justified, hq] at hj
    exact hj d hd
  · rintro before after c₁ v rfl hc₁ hp
    rw [run_append] at hc
    obtain ⟨hid, hreg⟩ := recheck_joins hc₁ hp hc hq
    rw [hd] at hid
    cases hid
    exact ⟨rfl, hreg⟩

/-! Two connections of one unknown device race to enroll it; the data are real digests and
signatures. -/

namespace EnrollRace

def keyBytes : List UInt8 :=
  [138, 136, 227, 221, 116, 9, 241, 149, 253, 82, 219, 45, 60, 186, 93, 114, 202, 103, 9, 191,
    29, 148, 18, 27, 243, 116, 136, 1, 180, 15, 111, 92]

def sigA : List UInt8 :=
  [176, 101, 44, 158, 80, 35, 183, 227, 155, 193, 232, 161, 123, 235, 188, 57, 255, 143, 55,
    164, 53, 241, 216, 104, 168, 72, 227, 96, 148, 142, 250, 229, 232, 119, 181, 45, 163, 131,
    157, 131, 100, 126, 253, 243, 163, 46, 160, 203, 68, 252, 84, 223, 116, 132, 97, 61, 17,
    193, 175, 192, 107, 159, 252, 0]

def sigB : List UInt8 :=
  [80, 228, 200, 80, 164, 45, 218, 202, 134, 202, 28, 204, 84, 232, 223, 224, 227, 81, 241, 113,
    119, 255, 200, 91, 184, 72, 196, 43, 29, 27, 57, 228, 225, 233, 170, 0, 64, 186, 46, 2, 147,
    176, 244, 121, 225, 183, 219, 153, 128, 154, 11, 183, 180, 99, 38, 13, 24, 126, 252, 128,
    209, 197, 110, 3]

def dummyDigest : List UInt8 :=
  [135, 207, 204, 176, 202, 59, 131, 169, 203, 206, 177, 86, 86, 64, 60, 80, 198, 104, 10, 101,
    207, 57, 214, 125, 149, 90, 8, 205, 39, 89, 227, 84]

def nonceA : List UInt8 := (List.range 32).map UInt8.ofNat
def nonceB : List UInt8 := (List.range 32).map (fun n => UInt8.ofNat (n + 32))

def keyText : String := "iojj3XQJ8ZX9UtstPLpdcspnCb8dlBIb83SIAbQPb1w="
def nonceTextA : String := "AAECAwQFBgcICQoLDA0ODxAREhMUFRYXGBkaGxwdHh8="
def nonceTextB : String := "ICEiIyQlJicoKSorLC0uLzAxMjM0NTY3ODk6Ozw9Pj8="
def sigTextA : String :=
  "sGUsnlAjt+Obweihe+u8Of+PN6Q18dhoqEjjYJSO+uXod7Uto4Odg2R+/fOjLqDLRPxU33SEYT0Rwa/Aa5/8AA=="
def sigTextB : String :=
  "UOTIUKQt2sqGyhzMVOjf4ONR8XF3/8hbuEjEKx0bOeTh6aoAQLouApOw9Hnht9uZgJoLt7RjJg0YfvyA0cVuAw=="

def raceUuid : Uuid := ⟨"6f1c7a0e-2b4d-4c8a-9e31-0d5f6b7a8c90", by decide⟩

def dummyBytes : List UInt8 := asBytes (dummyId raceUuid) ++ asBytes ":" ++ asBytes "dummy"

def raceCrypto : Crypto where
  sha256 bytes := if bytes = dummyBytes then dummyDigest else List.replicate 33 0 ++ bytes
  encodeBase64 bytes :=
    if bytes = nonceA then nonceTextA else if bytes = nonceB then nonceTextB else ""
  decodeBase64 text :=
    if text = keyText then some keyBytes
    else if text = nonceTextA then some nonceA
    else if text = nonceTextB then some nonceB
    else if text = sigTextA then some sigA
    else if text = sigTextB then some sigB
    else none
  validKey key := key = keyBytes
  verifyStrict key msg sig := key = keyBytes ∧
    (msg = nonceA ++ asBytes "ms-0a1b2c3d4e5f" ++ asBytes "room-1" ∧ sig = sigA ∨
      msg = nonceB ++ asBytes "ms-0a1b2c3d4e5f" ++ asBytes "room-1" ∧ sig = sigB)

lemma raceCrypto_sha256 : Function.Injective raceCrypto.sha256 := by
  have hl : dummyDigest.length = 32 := rfl
  intro x y h
  simp only [raceCrypto] at h
  split_ifs at h with hx hy hy
  · rw [hx, hy]
  · have := congrArg List.length h
    rw [hl, List.length_append, List.length_replicate] at this
    omega
  · have := congrArg List.length h
    rw [hl, List.length_append, List.length_replicate] at this
    omega
  · exact List.append_cancel_left h

def joinMsg : SignalingMessage :=
  .roomJoin "room-1" .host none (some "ms-0a1b2c3d4e5f") none (some keyText) (some 3) none none

def raceRun : List AuthAction :=
  [.connect "p0" none, .connect "p1" none, .text 0 joinMsg nonceA, .text 1 joinMsg nonceB,
    .text 0 (.deviceAuthResponse "room-1" sigTextA) [],
    .text 1 (.deviceAuthResponse "room-1" sigTextB) [],
    .policyGate 0, .policyGate 1, .clearPending 0, .recheck 1]

def raceRequest : JoinRequest :=
  ⟨"p1", .device "ms-0a1b2c3d4e5f", "room-1", .host, some 3, none⟩

def loser : AuthConn :=
  ⟨"p1", none, .joining raceRequest, some 3, none, [], [.deviceAuthChallenge nonceTextB]⟩

end EnrollRace

open EnrollRace in
theorem device_identity_proof_race :
    ∃ before a after, raceRun = before ++ a :: after ∧
      Authenticates raceCrypto (run (step raceCrypto) (start raceCrypto ∅ raceUuid true) before) 1
        "ms-0a1b2c3d4e5f" "room-1" a :=
  (device_identity_proof raceCrypto raceCrypto_sha256 ∅ raceUuid true raceRun (by decide) 1
    loser raceRequest "ms-0a1b2c3d4e5f" (by decide) rfl rfl).1

end MediaServo.Server
