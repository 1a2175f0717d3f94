import MediaServo.Server.Persistence
import MediaServo.ServerProofs.DeviceIdentity
import MediaServo.ServerProofs.Persistence

namespace MediaServo.Server.RegistryFile

open MediaServo.Foundations MediaServo.Common
open Digits (hex hexByte)

section Entries

variable {c : Crypto}

lemma utf8ByteSize_ofList (l : List Char) :
    (String.ofList l).utf8ByteSize = (l.map Char.utf8Size).sum := by
  rw [← String.size_toByteArray, String.toByteArray_ofList, List.utf8Encode, List.size_toByteArray,
    List.length_flatMap]
  simp

lemma hexByte_size (b : UInt8) : ((hexByte b).map Char.utf8Size).sum = 2 := by
  have hdigit : ∀ d : Fin 16, (Nat.digitChar d.val).utf8Size = 1 := by decide
  have hb := b.toNat_lt
  have hhigh := hdigit ⟨b.toNat / 16, by omega⟩
  have hlow := hdigit ⟨b.toNat % 16, by omega⟩
  simp only [hexByte, List.map_cons, List.map_nil, List.sum_cons, List.sum_nil] at *
  omega

lemma hex_size (bs : List UInt8) : (hex bs).utf8ByteSize = 2 * bs.length := by
  rw [hex, utf8ByteSize_ofList]
  induction bs with
  | nil => rfl
  | cons b bs ih =>
      rw [List.flatMap_cons, List.map_append, List.sum_append, ih, hexByte_size, List.length_cons]
      omega

def Loadable (c : Crypto) (e : Entry) : Prop := ∀ id, Entry.ofFile c id e.file = .ok e

lemma loadable_secret {hash : String} (hscheme : startsWith hash "sha256:")
    (hlen : hash.utf8ByteSize = "sha256:".utf8ByteSize + 64) : Loadable c (.secret hash) := by
  intro id
  simp only [Entry.file, Entry.ofFile]
  rw [if_neg (not_not.2 hscheme), if_neg (not_not.2 hlen)]

lemma loadable_publicKey {vk : String} {raw : List UInt8} (name : Option String)
    (h : c.decodeVk vk = .ok raw) : Loadable c (.publicKey vk name) := by
  intro id
  simp only [Entry.file, Entry.ofFile, stripPrefix_append, h]

lemma loadable_ofFile {id : String} {f : DeviceEntryFile} {e : Entry}
    (h : Entry.ofFile c id f = .ok e) : Loadable c e := by
  rw [Entry.ofFile] at h
  split at h
  · split at h
    next => cases h
    next hscheme =>
      split at h
      next => cases h
      next hlen =>
        cases h
        exact loadable_secret (not_not.1 hscheme) (not_not.1 hlen)
  · split at h
    next => cases h
    next vk hvk =>
      split at h
      next => cases h
      next raw hraw =>
        cases h
        exact loadable_publicKey _ hraw
  · cases h
  · cases h

lemma loadable_hashSecret (hsha : ∀ bs, (c.sha256 bs).length = 32) (d secret : String) :
    Loadable c (.secret (c.hashSecret d secret)) := by
  apply loadable_secret
  · simp [Crypto.hashSecret, startsWith]
  · rw [Crypto.hashSecret, String.utf8ByteSize_append, hex_size, hsha]

end Entries

section Registry

variable {c : Crypto}

def AllLoadable (c : Crypto) (devices : FiniteMap String Entry) : Prop :=
  ∀ k e, devices.get k = some e → Loadable c e

lemma allLoadable_set {devices : FiniteMap String Entry} (h : AllLoadable c devices) (d : String)
    {e : Entry} (he : Loadable c e) : AllLoadable c (devices.set d e) := by
  intro k e' hget
  rw [FiniteMap.get_set] at hget
  split_ifs at hget
  · cases hget
    exact he
  · exact h k e' hget

lemma allLoadable_remove {devices : FiniteMap String Entry} (h : AllLoadable c devices)
    (d : String) : AllLoadable c (devices.remove d) :=
  fun k e hget => h k e (FiniteMap.get_of_remove hget)

lemma allLoadable_enroll {devices devices' : FiniteMap String Entry} (h : AllLoadable c devices)
    {d vk : String} {name : Option String}
    (hexec : (DeviceRegistry.enrollAuto c ⟨devices, ""⟩ d vk name).map (·.devices) = .ok devices') :
    AllLoadable c devices' := by
  rw [DeviceRegistry.enrollAuto] at hexec
  cases hvk : c.decodeVk vk with
  | error e =>
      rw [hvk] at hexec
      cases hexec
  | ok raw =>
      rw [hvk] at hexec
      dsimp only at hexec
      split at hexec
      · cases hexec
      · cases hexec
        exact allLoadable_set h d (loadable_publicKey name hvk)

lemma allLoadable_exec (hsha : ∀ bs, (c.sha256 bs).length = 32)
    {devices devices' : FiniteMap String Entry} (h : AllLoadable c devices) {op : DeviceOp}
    (hexec : op.exec c devices = .ok devices') : AllLoadable c devices' := by
  cases op with
  | register d secret fresh =>
      simp only [DeviceOp.exec, DeviceRegistry.registerWithSecret] at hexec
      split at hexec
      · cases hexec
      · cases secret with
        | none =>
            cases hexec
            exact allLoadable_set h d (loadable_hashSecret hsha d fresh)
        | some s =>
            dsimp only at hexec
            split at hexec
            · cases hexec
            · cases hexec
              exact allLoadable_set h d (loadable_hashSecret hsha d s)
  | revoke d =>
      simp only [DeviceOp.exec, DeviceRegistry.revoke] at hexec
      split at hexec
      · cases hexec
        exact allLoadable_remove h d
      · cases hexec
  | resetSecret d fresh =>
      simp only [DeviceOp.exec, DeviceRegistry.resetSecret] at hexec
      split at hexec
      · cases hexec
        exact allLoadable_set h d (loadable_hashSecret hsha d fresh)
      · cases hexec
  | approve d vk name => exact allLoadable_enroll h hexec
  | autoEnroll d vk => exact allLoadable_enroll h hexec

lemma allLoadable_apply (hsha : ∀ bs, (c.sha256 bs).length = 32) (devices : FiniteMap String Entry)
    (op : DeviceOp) (h : AllLoadable c devices) : AllLoadable c (apply c devices op) := by
  rw [apply]
  split
  next => exact h
  next hexec => exact allLoadable_exec hsha h hexec

lemma loadEntries_loadable (l : List (String × DeviceEntryFile)) {acc devices : FiniteMap String Entry}
    (hacc : AllLoadable c acc) (h : loadEntries c l acc = .ok devices) : AllLoadable c devices := by
  induction l generalizing acc with
  | nil =>
      cases h
      exact hacc
  | cons p l ih =>
      rw [loadEntries] at h
      split at h
      next => cases h
      next hparsed => exact ih (allLoadable_set hacc _ (loadable_ofFile hparsed)) h

lemma loadEntries_get (devices : FiniteMap String Entry) (l : List (String × DeviceEntryFile))
    (acc : FiniteMap String Entry)
    (hl : ∀ p ∈ l, ∃ e, devices.get p.1 = some e ∧ Entry.ofFile c p.1 p.2 = .ok e) :
    ∃ loaded, loadEntries c l acc = .ok loaded ∧
      ∀ k, loaded.get k = if k ∈ l.map Prod.fst then devices.get k else acc.get k := by
  induction l generalizing acc with
  | nil => exact ⟨acc, rfl, fun k => by simp⟩
  | cons p l ih =>
      obtain ⟨e, hget, hparsed⟩ := hl p List.mem_cons_self
      obtain ⟨loaded, hloaded, hk⟩ := ih (acc.set p.1 e) fun q hq => hl q (List.mem_cons_of_mem p hq)
      refine ⟨loaded, ?_, ?_⟩
      · rw [loadEntries, hparsed]
        exact hloaded
      · intro k
        rw [hk, FiniteMap.get_set]
        by_cases hp : k = p.1
        · subst hp
          simp [hget]
        · simp only [List.map_cons, List.mem_cons, hp, false_or, if_false]

variable {Text : Type} {yaml : FiniteMap String DeviceEntryFile → Except String Text}
  {ofYaml : Text → Except String (FiniteMap String DeviceEntryFile)}

/-- Every document can be written, and is read back with the same entries. -/
def Faithful (yaml : FiniteMap String DeviceEntryFile → Except String Text)
    (ofYaml : Text → Except String (FiniteMap String DeviceEntryFile)) : Prop :=
  ∀ doc, ∃ text doc', yaml doc = .ok text ∧ ofYaml text = .ok doc' ∧ ∀ k, doc'.get k = doc.get k

lemma round_trip (hserde : Faithful yaml ofYaml) {devices : FiniteMap String Entry}
    (h : AllLoadable c devices) :
    ∃ text loaded, toYaml yaml devices = .ok text ∧ fromYaml ofYaml c text = .ok loaded ∧
      ∀ k, loaded.get k = devices.get k := by
  obtain ⟨text, doc, htext, hdoc, hget⟩ := hserde (devices.mapValues fun _ e => e.file)
  have hfile : ∀ k, doc.get k = (devices.get k).map Entry.file := by
    intro k
    rw [hget, FiniteMap.get_mapValues]
  obtain ⟨loaded, hloaded, hk⟩ := loadEntries_get devices doc.toList ∅ (c := c) (by
    rintro ⟨k, f⟩ hmem
    rw [FiniteMap.mem_toList, hfile, Option.map_eq_some_iff] at hmem
    obtain ⟨e, he, rfl⟩ := hmem
    exact ⟨e, he, h k e he k⟩)
  refine ⟨text, loaded, by rw [toYaml, htext], by rw [fromYaml, hdoc]; exact hloaded, ?_⟩
  intro k
  rw [hk]
  split
  next => rfl
  next hno =>
    rw [FiniteMap.get_empty, eq_comm, Option.eq_none_iff_forall_ne_some]
    intro e he
    apply hno
    rw [List.mem_map]
    exact ⟨(k, e.file), (FiniteMap.mem_toList _ _ _).2 (by rw [hfile, he, Option.map_some]), rfl⟩

/-- The registry a server starts with: none, or the one of a file. -/
def Started (ofYaml : Text → Except String (FiniteMap String DeviceEntryFile)) (c : Crypto)
    (devices : FiniteMap String Entry) : Prop :=
  devices = ∅ ∨ ∃ content, fromYaml ofYaml c content = .ok devices

lemma Started.loadable {devices : FiniteMap String Entry} (h : Started ofYaml c devices) :
    AllLoadable c devices := by
  have hempty : AllLoadable c ∅ := fun k e he => by simp at he
  rcases h with rfl | ⟨content, h⟩
  · exact hempty
  · rw [fromYaml] at h
    split at h
    next => cases h
    next => exact loadEntries_loadable _ hempty h

theorem registry_round_trip (c : Crypto) (hsha : ∀ bs, (c.sha256 bs).length = 32)
    (yaml : FiniteMap String DeviceEntryFile → Except String Text)
    (ofYaml : Text → Except String (FiniteMap String DeviceEntryFile))
    (hserde : Faithful yaml ofYaml) (start : FiniteMap String Entry)
    (hstart : Started ofYaml c start) (ops : List DeviceOp) :
    ∃ text loaded, toYaml yaml (run (apply c) start ops) = .ok text ∧
      fromYaml ofYaml c text = .ok loaded ∧
      ∀ k, loaded.get k = (run (apply c) start ops).get k :=
  round_trip hserde (run_preserves hstart.loadable (allLoadable_apply hsha) ops)

open EnrollRace in
def twoFormsCrypto : Crypto where
  __ := raceCrypto
  sha256 bytes :=
    if bytes = asBytes "cam-a:let-me-in" then
      [146, 0, 69, 185, 238, 42, 197, 201, 179, 171, 56, 25, 196, 70, 52, 222, 183, 130, 23, 110, 0,
        59, 207, 78, 154, 138, 186, 64, 219, 139, 211, 200]
    else if bytes = asBytes "cam-a:3f9c2a7d41b86e05c8d17fa2e94b6035" then
      [107, 0, 194, 115, 36, 43, 99, 191, 232, 16, 69, 58, 189, 242, 155, 29, 5, 231, 188, 61, 236,
        225, 135, 241, 27, 172, 207, 49, 54, 36, 23, 208]
    else List.replicate 32 0
  decodeBase64 text := if text = "AAAA" then some [0, 0, 0] else raceCrypto.decodeBase64 text

lemma entries_faithful : Faithful (fun doc => .ok (Persistence.entries doc))
    (fun text => .ok ((Persistence.ofEntries text).getD ∅)) := by
  intro doc
  obtain ⟨doc', hdoc, hget⟩ := Persistence.ofEntries_entries doc
  exact ⟨_, doc', rfl, by dsimp only; rw [hdoc, Option.getD_some], hget⟩

def twoForms : List DeviceOp :=
  [.register "cam-a" (some "let-me-in") "", .approve "cam-b" EnrollRace.keyText (some "front"),
    .approve "cam-c" "AAAA" none, .revoke "cam-d", .resetSecret "cam-a" "3f9c2a7d41b86e05c8d17fa2e94b6035"]

theorem registry_round_trip_two_forms :
    let devices := run (apply twoFormsCrypto) ∅ twoForms
    devices.get "cam-a" = some (.secret
      "sha256:6b00c273242b63bfe810453abdf29b1d05e7bc3dece187f11baccf31362417d0") ∧
      devices.get "cam-b" = some (.publicKey EnrollRace.keyText (some "front")) ∧
      devices.get "cam-c" = none ∧
      ∃ text loaded, toYaml (fun doc => .ok (Persistence.entries doc)) devices = .ok text ∧
        fromYaml (fun text => .ok ((Persistence.ofEntries text).getD ∅)) twoFormsCrypto text =
          .ok loaded ∧
        ∀ k, loaded.get k = devices.get k := by
  refine ⟨by decide +kernel, by decide +kernel, by decide +kernel, ?_⟩
  refine registry_round_trip twoFormsCrypto (fun bs => ?_) _ _ entries_faithful ∅ (.inl rfl) twoForms
  simp only [twoFormsCrypto]
  split_ifs <;> rfl

end Registry

end MediaServo.Server.RegistryFile
