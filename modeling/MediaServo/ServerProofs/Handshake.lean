import MediaServo.Server.Handshake
import MediaServo.ServerProofs.Rollbacks

/-! Who passes the first phase, and with which identity, and when the subjects of account tokens and
of API-key tokens are apart. -/

namespace MediaServo.Server

open MediaServo.Foundations MediaServo.Common

namespace AuthConfig

variable {cfg : AuthConfig} {peerId uuid p : String} {token : Option String}
  {a : Option AccountIdentity} {events rest : List WsEvent}

/-- The identity that verified claims give: none without a role, as for the tokens of before
roles. -/
def identityOf (claims : JwtClaims) (a : Option AccountIdentity) : Prop :=
  claims.role = none ∧ a = none ∨
    ∃ r role, claims.role = some r ∧ CockpitRole.parse r = some role ∧
      a = some ⟨claims.sub, role, claims.vehicles.getD []⟩

def ByToken (cfg : AuthConfig) (token : Option String) (a : Option AccountIdentity) : Prop :=
  ∃ verify t claims, cfg.jwtAuth = some verify ∧ token = some t ∧ verify t = .ok claims ∧
    identityOf claims a

/-- No token is verified, and the first frame is a text that the PSK check accepts. -/
def ByPsk (cfg : AuthConfig) (psk peerId : String) (token : Option String)
    (a : Option AccountIdentity) (events : List WsEvent) : Prop :=
  (cfg.jwtAuth = none ∨ token = none) ∧ a = none ∧
    ∃ t rest, events = .text t :: rest ∧ (t = psk ∨ cfg.sign psk peerId = cfg.sign psk t)

lemma jwtPhase_none (h : cfg.jwtPhase uuid token = none) : cfg.jwtAuth = none ∨ token = none := by
  cases hv : cfg.jwtAuth with
  | none => exact .inl rfl
  | some verify =>
    cases token with
    | none => exact .inr rfl
    | some t =>
      simp only [jwtPhase, hv] at h
      split at h
      · cases h
      · split at h
        · cases h
        · split at h <;> cases h

lemma jwtPhase_ok (h : cfg.jwtPhase uuid token = some (.ok (p, a))) : ByToken cfg token a := by
  cases hv : cfg.jwtAuth with
  | none => simp [jwtPhase, hv] at h
  | some verify =>
    cases token with
    | none => simp [jwtPhase] at h
    | some t =>
      simp only [jwtPhase, hv] at h
      split at h
      · cases h
      · rename_i claims hok
        refine ⟨verify, t, claims, hv, rfl, hok, ?_⟩
        split at h
        · rename_i hrole
          cases h
          exact .inl ⟨hrole, rfl⟩
        · rename_i r hrole
          split at h
          · cases h
          · rename_i role hparse
            cases h
            exact .inr ⟨r, role, hrole, hparse, rfl⟩

lemma pskPhase_entered {psk : String} (h : cfg.pskPhase psk peerId events = .entered p a rest) :
    a = none ∧ ∃ t rest, events = .text t :: rest ∧
      (t = psk ∨ cfg.sign psk peerId = cfg.sign psk t) := by
  match events, h with
  | .text t :: more, h =>
    rw [pskPhase] at h
    split_ifs at h with hok
    obtain ⟨_, rfl, rfl⟩ := Phase1.entered.inj h
    exact ⟨rfl, t, _, rfl, hok.symm⟩

lemma phase1_entered {psk : String} (hpsk : cfg.psk = some psk)
    (h : cfg.phase1 peerId uuid token events = .entered p a rest) :
    ByToken cfg token a ∨ ByPsk cfg psk peerId token a events := by
  rw [phase1] at h
  split at h
  · cases h
  · rename_i q account hj
    cases h
    exact .inl (jwtPhase_ok hj)
  · rename_i hj
    simp only [hpsk] at h
    exact .inr ⟨jwtPhase_none hj, pskPhase_entered h⟩

section Refusals

variable {verify : String → Except String JwtClaims} {t : String} {claims : JwtClaims}

lemma phase1_invalid (hv : cfg.jwtAuth = some verify) (h : ∀ claims, verify t ≠ .ok claims) :
    cfg.phase1 peerId uuid (some t) events =
      .refused (some (.error 4013 "JWT invalid or expired")) := by
  cases hverify : verify t with
  | error e => simp only [phase1, jwtPhase, hv, hverify]
  | ok claims => exact absurd hverify (h claims)

lemma phase1_unknown_role {r : String} (hv : cfg.jwtAuth = some verify) (h : verify t = .ok claims)
    (hr : claims.role = some r) (hparse : CockpitRole.parse r = none) :
    cfg.phase1 peerId uuid (some t) events =
      .refused (some (.error 4011 s!"token role {Lines.debugString r} not recognized")) := by
  simp only [phase1, jwtPhase, hv, h, hr, hparse]

end Refusals

end AuthConfig

open AuthConfig

theorem phase1_authentication (cfg : AuthConfig) (psk : String) (hpsk : cfg.psk = some psk)
    (peerId uuid : String) (token : Option String) (events : List WsEvent) :
    (∀ p a rest, cfg.phase1 peerId uuid token events = .entered p a rest →
      ByToken cfg token a ∨ ByPsk cfg psk peerId token a events) ∧
    ∀ verify t, cfg.jwtAuth = some verify → token = some t →
      ((∀ claims, verify t ≠ .ok claims) → cfg.phase1 peerId uuid token events =
        .refused (some (.error 4013 "JWT invalid or expired"))) ∧
      ∀ claims r, verify t = .ok claims → claims.role = some r → CockpitRole.parse r = none →
        cfg.phase1 peerId uuid token events =
          .refused (some (.error 4011 s!"token role {Lines.debugString r} not recognized")) := by
  refine ⟨fun p a rest h => phase1_entered hpsk h, ?_⟩
  rintro verify t hv rfl
  exact ⟨phase1_invalid hv, fun claims r hok hr hparse => phase1_unknown_role hv hok hr hparse⟩

/-! A server with a PSK and a JWT secret; the token is one that `JwtAuth::sign` made, and the
digests are real. -/

namespace PskServer

def legacyToken : String :=
  "eyJ0eXAiOiJKV1QiLCJhbGciOiJIUzI1NiJ9.eyJzdWIiOiJwZWVyLTQyIiwiaWF0IjoxNzYwMDAwMDAwLCJleHAi" ++
    "OjQxMDI0NDQ4MDAsInJvbGUiOm51bGwsInZlaGljbGVzIjpudWxsfQ.7jMpQECtVNnTMS5iZSvKuvKtSVo3O4P5XLvL_1rxq0w"

def legacyClaims : JwtClaims := ⟨"peer-42", 1760000000, 4102444800, none, none⟩

def drawnId : String := "6f1c7a0e-2b4d-4c8a-9e31-0d5f6b7a8c90"

def digest (key message : List UInt8) : List UInt8 :=
  if key = asBytes "e2e-sfu-psk" ∧ message = asBytes "e2e-sfu-psk" then
    [98, 120, 206, 31, 230, 128, 124, 217, 237, 142, 127, 29, 107, 4, 139, 2, 194, 187, 233, 121,
      1, 111, 14, 6, 47, 30, 212, 23, 78, 33, 255, 75]
  else if key = asBytes "e2e-sfu-psk" ∧ message = asBytes drawnId then
    [206, 13, 33, 17, 180, 20, 211, 131, 130, 233, 149, 78, 44, 106, 213, 124, 75, 74, 165, 118,
      137, 14, 33, 84, 66, 34, 102, 7, 32, 114, 62, 221]
  else []

def config : AuthConfig where
  psk := some "e2e-sfu-psk"
  jwtAuth := some (fun t => if t = legacyToken then .ok legacyClaims else .error "JWT verify error")
  hmacSha256 := digest

end PskServer

open PskServer

theorem phase1_authentication_psk :
    ByPsk config "e2e-sfu-psk" drawnId none none [.text "e2e-sfu-psk"] ∧
      config.phase1 drawnId "" (some "garbage") [.text "e2e-sfu-psk"] =
        .refused (some (.error 4013 "JWT invalid or expired")) := by
  constructor
  · obtain ⟨verify, t, _, _, ht, _⟩ | h := (phase1_authentication config "e2e-sfu-psk" rfl drawnId ""
      none [.text "e2e-sfu-psk"]).1 drawnId none [] (by decide)
    · cases ht
    · exact h
  · apply ((phase1_authentication config "e2e-sfu-psk" rfl drawnId "" (some "garbage")
      [.text "e2e-sfu-psk"]).2 _ _ rfl rfl).1
    intro claims h
    rw [if_neg (by decide)] at h
    cases h

theorem roleless_token_passes :
    ¬ ∀ (cfg : AuthConfig) (psk : String), cfg.psk = some psk → ∀ peerId uuid token events p a rest,
      cfg.phase1 peerId uuid token events = .entered p a rest →
      (∃ verify t claims r role, cfg.jwtAuth = some verify ∧ token = some t ∧
        verify t = .ok claims ∧ claims.role = some r ∧ CockpitRole.parse r = some role) ∨
      ∃ rest, events = .text psk :: rest := by
  intro h
  obtain ⟨verify, t, claims, r, role, hv, ht, hok, hr, _⟩ | ⟨rest, hrest⟩ := h config "e2e-sfu-psk"
    rfl drawnId "" (some legacyToken) [] "peer-42" none [] (by decide +kernel)
  · cases hv
    cases ht
    change (if _ then _ else _) = _ at hok
    rw [if_pos rfl] at hok
    cases hok
    cases hr
  · cases hrest

namespace Persistence

variable {R : Registry} {β : Type} {yaml : FiniteMap String R.Form → List β} {s : Store R β}
variable {acts : List (Action R)} {k : String}

/-- The key has an entry at the start, or an accepted insertion is on it. -/
def Enters (yaml : FiniteMap String R.Form → List β) (s : Store R β) (acts : List (Action R))
    (k : String) : Prop :=
  s.memory.contains k ∨ ∃ before i op after, acts = before ++ .start i op :: after ∧
    R.rollsBack op ∧ R.key op = k ∧ Accepts (run (step yaml) s before) i op

structure Inserts (R : Registry) : Prop where
  adds : ∀ {op m m'}, R.exec op m = .ok m' → R.rollsBack op → m'.contains (R.key op)
  only : ∀ {op m m'}, R.exec op m = .ok m' → ¬ R.rollsBack op → m'.contains (R.key op) →
    m.contains (R.key op)

variable (yaml) in
lemma advance_memory (s : Store R β) (i : ℕ) (t : Task R β) (fault : Option ℕ) :
    (advance yaml s i t fault).memory = s.memory ∨
      (advance yaml s i t fault).memory = s.memory.remove (R.key t.op) := by
  obtain ⟨op, phase⟩ := t
  cases phase with
  | failing =>
    by_cases hback : R.rollsBack op
    · right
      cases fault <;> simp [advance, hback, Store.setPhase]
    · left
      cases fault <;> simp [advance, hback, Store.setPhase]
  | written text fd =>
    left
    cases fault with
    | some n => rfl
    | none =>
      simp only [advance]
      split <;> rfl
  | _ =>
    left
    cases fault <;> rfl

lemma contains_of_step (hR : Inserts R) {a : Action R} (h : (step yaml s a).memory.contains k) :
    s.memory.contains k ∨
      ∃ i op, a = .start i op ∧ R.rollsBack op ∧ R.key op = k ∧ Accepts s i op := by
  cases a with
  | start i op =>
    simp only [step, start] at h
    split at h
    · exact Or.inl h
    · rename_i hnew
      split at h
      · exact Or.inl h
      · rename_i m hm
        have hfree : s.tasks.get i = none := by simpa [FiniteMap.contains] using hnew
        by_cases hk : R.key op = k
        · subst hk
          by_cases hback : R.rollsBack op
          · exact Or.inr ⟨i, op, rfl, hback, rfl, hfree, m, hm⟩
          · exact Or.inl (hR.only hm hback h)
        · left
          rw [FiniteMap.contains, ← R.exec_other hm (Ne.symm hk)]
          exact h
  | next i fault =>
    left
    simp only [step] at h
    split at h
    · exact h
    · rename_i t _
      rcases advance_memory yaml s i t fault with heq | heq
      · rwa [heq] at h
      · rw [heq, FiniteMap.contains_iff] at h
        obtain ⟨e, he⟩ := h
        exact (FiniteMap.contains_iff _ _).2 ⟨e, FiniteMap.get_of_remove he⟩

lemma present_iff_enters (hR : Inserts R) :
    (∃ before after, acts = before ++ after ∧ (run (step yaml) s before).memory.contains k) ↔
      Enters yaml s acts k := by
  constructor
  · rintro ⟨before, after, rfl, h⟩
    induction before using List.reverseRecOn generalizing after with
    | nil => exact Or.inl h
    | append_singleton before a ih =>
      rw [run_snoc] at h
      rw [List.append_assoc]
      rcases contains_of_step hR h with h | ⟨i, op, rfl, hback, hk, hacc⟩
      · exact ih _ h
      · exact Or.inr ⟨before, i, op, after, rfl, hback, hk, hacc⟩
  · rintro (h | ⟨before, i, op, after, rfl, hback, rfl, hfree, m, hm⟩)
    · exact ⟨[], acts, rfl, h⟩
    · refine ⟨before ++ [.start i op], after, by simp, ?_⟩
      have hidle : (run (step yaml) s before).tasks.contains i = false := by
        rw [FiniteMap.contains, hfree]
        rfl
      rw [run_snoc, step, start, hidle]
      simp only [Bool.false_eq_true, if_false, hm]
      exact hR.adds hm hback

end Persistence

open Persistence

lemma accountRegistry_inserts (c : Crypto) : Inserts (accountRegistry c) where
  adds {op m m'} hm hback := by
    cases op with
    | create u password role vehicles =>
      simp only [accountRegistry, AccountOp.exec, AccountRegistry.createAccount] at hm
      split at hm
      · cases hm
      · split at hm
        · cases hm
        · split at hm
          · cases hm
          · cases hm
            exact (FiniteMap.contains_iff _ _).2 ⟨_, FiniteMap.get_set_self _ _ _⟩
    | update u role vehicles newPassword => cases hback
    | delete u => cases hback
  only {op m m'} hm hback hk := by
    cases op with
    | create u password role vehicles => exact absurd rfl hback
    | update u role vehicles newPassword =>
      simp only [accountRegistry, AccountOp.exec, AccountRegistry.updateAccount] at hm
      split at hm
      · cases hm
      · split at hm
        · cases hm
        · split at hm
          · cases hm
          · rename_i e he
            exact (FiniteMap.contains_iff _ _).2 ⟨e, he⟩
    | delete u =>
      simp only [accountRegistry, AccountOp.exec, AccountRegistry.deleteAccount] at hm
      split at hm
      · rename_i hc
        exact hc
      · cases hm

lemma apiKeyRegistry_inserts (c : Crypto) : Inserts (apiKeyRegistry c) where
  adds {op m m'} hm hback := by
    cases op with
    | register keyId role vehicles label secret =>
      simp only [apiKeyRegistry, ApiKeyOp.exec, ApiKeyRegistry.register] at hm
      split at hm
      · cases hm
      · split at hm
        · cases hm
        · split at hm
          · cases hm
          · cases hm
            exact (FiniteMap.contains_iff _ _).2 ⟨_, FiniteMap.get_set_self _ _ _⟩
    | revoke keyId => cases hback
  only {op m m'} hm hback hk := by
    cases op with
    | register keyId role vehicles label secret => exact absurd rfl hback
    | revoke keyId =>
      simp only [apiKeyRegistry, ApiKeyOp.exec, ApiKeyRegistry.revoke] at hm
      split at hm
      · rename_i hc
        exact hc
      · cases hm

/-- Two tokens by which no audit entry and no session can be taken for the other's. -/
structure Apart (x y : JwtClaims) : Prop where
  subject : x.sub ≠ y.sub
  session : ∀ {cfg : AuthConfig} {verify uuid uuid' t t' p p' a a'}, cfg.jwtAuth = some verify →
    verify t = .ok x → verify t' = .ok y → cfg.jwtPhase uuid (some t) = some (.ok (p, some a)) →
    cfg.jwtPhase uuid' (some t') = some (.ok (p', some a')) →
      identityKey (.account a) ≠ identityKey (.account a')

lemma identityKey_of_jwtPhase {cfg : AuthConfig} {verify : String → Except String JwtClaims}
    {uuid t p : String} {a : AccountIdentity} {x : JwtClaims} (hv : cfg.jwtAuth = some verify)
    (ht : verify t = .ok x) (h : cfg.jwtPhase uuid (some t) = some (.ok (p, some a))) :
    identityKey (.account a) = x.sub := by
  simp only [AuthConfig.jwtPhase, hv, ht] at h
  split at h
  · cases h
  · split at h
    · cases h
    · cases h
      rfl

lemma apart_iff (x y : JwtClaims) : Apart x y ↔ x.sub ≠ y.sub := by
  constructor
  · exact Apart.subject
  · intro h
    refine ⟨h, ?_⟩
    intro cfg verify uuid uuid' t t' p p' a a' hv ht ht' hp hp'
    rw [identityKey_of_jwtPhase hv ht hp, identityKey_of_jwtPhase hv ht' hp']
    exact h

/-- Whatever the admin requests do to the two registries, no token of an account that exists at
some time and no token of an API key that exists at some time have one subject, if and only if no
account was there or was created under the name that is the subject of a key that was there or was
registered. -/
theorem principals_apart_iff {β γ : Type} (c : Crypto)
    (yaml : FiniteMap String AccountEntryFile → List β)
    (yaml' : FiniteMap String ApiKeyEntryFile → List γ) (s : Store (accountRegistry c) β)
    (s' : Store (apiKeyRegistry c) γ) (acts : List (Persistence.Action (accountRegistry c)))
    (acts' : List (Persistence.Action (apiKeyRegistry c))) :
    (∀ as bs as' bs', admitted c acts = as ++ bs → acts' = as' ++ bs' →
      ∀ (u : String) (e : AccountEntry) (k : String) (d : ApiKeyEntry),
        (run (step yaml) s as).memory.get u = some e →
        (run (step yaml') s' as').memory.get k = some d → ∀ now ttl now' ttl',
          Apart (accountToken (e.identity u) now ttl) (apiToken k d now' ttl')) ↔
      ∀ u k, Enters yaml s (admitted c acts) u → Enters yaml' s' acts' k → u ≠ "apikey:" ++ k := by
  constructor
  · intro h u k hu hk
    obtain ⟨as, bs, has, hu⟩ := (present_iff_enters (accountRegistry_inserts c)).2 hu
    obtain ⟨as', bs', has', hk⟩ := (present_iff_enters (apiKeyRegistry_inserts c)).2 hk
    obtain ⟨e, he⟩ := (FiniteMap.contains_iff _ _).1 hu
    obtain ⟨d, hd⟩ := (FiniteMap.contains_iff _ _).1 hk
    exact (h as bs as' bs' has has' u e k d he hd 0 0 0 0).subject
  · intro h as bs as' bs' has has' u e k d he hd now ttl now' ttl'
    rw [apart_iff]
    apply h u k
    · apply (present_iff_enters (accountRegistry_inserts c)).1
      exact ⟨as, bs, has, (FiniteMap.contains_iff _ _).2 ⟨e, he⟩⟩
    · apply (present_iff_enters (apiKeyRegistry_inserts c)).1
      exact ⟨as', bs', has', (FiniteMap.contains_iff _ _).2 ⟨d, hd⟩⟩

def newStore (R : Registry) : Store R Unit where
  memory := ∅
  files :=
    { names := fun _ => none
      contents := fun _ => []
      next := 0
      separate := by simp
      fresh := by simp }
  tasks := ∅

def createApikeyCi : List (Persistence.Action (accountRegistry noCrypto)) :=
  [.start 0 (AccountOp.create "apikey:ci" "pw" "viewer" [])]

def registerCi : List (Persistence.Action (apiKeyRegistry noCrypto)) :=
  [.start 0 (ApiKeyOp.register "ci" "viewer" [] none "uuid")]

theorem apikey_ci_not_apart :
    ¬ ∀ (u : String) (e : AccountEntry) (k : String) (d : ApiKeyEntry),
      (run (step fun _ => []) (newStore (accountRegistry noCrypto))
        (admitted noCrypto createApikeyCi)).memory.get u = some e →
      (run (step fun _ => []) (newStore (apiKeyRegistry noCrypto)) registerCi).memory.get k =
        some d → ∀ now ttl now' ttl', Apart (accountToken (e.identity u) now ttl)
          (apiToken k d now' ttl') := by
  intro h
  have hap := h "apikey:ci" _ "ci" _ rfl rfl 0 0 0 0
  exact hap.subject rfl

end MediaServo.Server
