import MediaServo.Client.Stats

namespace MediaServo.ClientProofs.Stats

open Client Foundations

abbrev Row := RTCInboundRtpStreamStats

section Keys

variable {κ : Type} [DecidableEq κ] (key : Row → κ)

def Ordered (rows : List Row) : Prop :=
  rows.Pairwise fun a b =>
    key a = key b → Binary64.lt a.timestamp b.timestamp ∨ Binary64.lt b.timestamp a.timestamp

def newer (a b : Row) : Bool := key b = key a && Binary64.lt a.timestamp b.timestamp

def newest (rows : List Row) : List Row := rows.filter fun r => !rows.any (newer key r)

lemma mem_newest (rows : List Row) (r : Row) :
    r ∈ newest key rows ↔
      r ∈ rows ∧ ∀ r' ∈ rows, key r' = key r → ¬Binary64.lt r.timestamp r'.timestamp := by
  simp [newest, newer]

lemma newest_perm {rows rows' : List Row} (h : rows.Perm rows') :
    (newest key rows).Perm (newest key rows') := by
  have hany : ∀ r, rows.any (newer key r) = rows'.any (newer key r) := fun _ => h.any_eq
  simp only [newest, hany]
  exact h.filter _

lemma mem_newest_concat (rows : List Row) (r x : Row) :
    x ∈ newest key (rows ++ [r]) ↔
      x ∈ newest key rows ∧ (key r = key x → ¬Binary64.lt x.timestamp r.timestamp) ∨
      x = r ∧ ∀ y ∈ rows, key y = key r → ¬Binary64.lt r.timestamp y.timestamp := by
  have hrefl : ¬Binary64.lt r.timestamp r.timestamp := by simp [Binary64.lt_irrefl]
  simp only [mem_newest, List.mem_append, List.mem_singleton]
  constructor
  · rintro ⟨hx | rfl, hall⟩
    · exact .inl ⟨⟨hx, fun y hy => hall y (.inl hy)⟩, hall r (.inr rfl)⟩
    · exact .inr ⟨rfl, fun y hy => hall y (.inl hy)⟩
  · rintro (⟨⟨hx, hall⟩, hr⟩ | ⟨rfl, hall⟩)
    · refine ⟨.inl hx, ?_⟩
      rintro y (hy | rfl)
      · exact hall y hy
      · exact hr
    · refine ⟨.inr rfl, ?_⟩
      rintro y (hy | rfl)
      · exact hall y hy
      · exact fun _ => hrefl

omit [DecidableEq κ]

lemma Ordered.perm {rows rows' : List Row} (h : Ordered key rows) (hp : rows.Perm rows') :
    Ordered key rows' :=
  List.Pairwise.perm h hp (fun hab he => (hab he.symm).symm)

lemma Ordered.nodup {rows : List Row} (h : Ordered key rows) : rows.Nodup := by
  apply h.imp
  rintro a b hab rfl
  have hlt := hab rfl
  rw [or_self, Binary64.lt_irrefl] at hlt
  cases hlt

lemma Ordered.finer {κ' : Type} (key' : Row → κ') {rows : List Row} (h : Ordered key rows)
    (hkey : ∀ a b, key' a = key' b → key a = key b) : Ordered key' rows :=
  h.imp fun hab he => hab (hkey _ _ he)

lemma Ordered.concat {rows : List Row} {r : Row} (h : Ordered key (rows ++ [r])) :
    Ordered key rows ∧ ∀ a ∈ rows, key a = key r →
      Binary64.lt a.timestamp r.timestamp ∨ Binary64.lt r.timestamp a.timestamp := by
  rw [Ordered, List.pairwise_append] at h
  exact ⟨h.1, fun a ha hk => h.2.2 a ha r (List.mem_singleton_self r) hk⟩

end Keys

section Kept

variable {κ : Type} [DecidableEq κ] (key : Row → κ)

/-- What the map holds after some of the rows: under each key that occurred the newest row. -/
structure Holds (rows : List Row) (m : FiniteMap κ Row) : Prop where
  some_iff : ∀ k r, m.get k = some r ↔ r ∈ newest key rows ∧ key r = k
  none : ∀ k, m.get k = none → ∀ r ∈ rows, key r ≠ k

variable {key}

lemma Holds.older {rows : List Row} {m : FiniteMap κ Row} (h : Holds key rows m) {r prev : Row}
    (hprev : m.get (key r) = some prev) (hlt : Binary64.lt r.timestamp prev.timestamp) :
    Holds key (rows ++ [r]) m := by
  obtain ⟨hmem, hkey⟩ := (h.some_iff _ _).1 hprev
  constructor
  · intro k x
    rw [h.some_iff, mem_newest_concat]
    constructor
    · rintro ⟨hx, rfl⟩
      refine ⟨.inl ⟨hx, fun hk => ?_⟩, rfl⟩
      have hxp : m.get (key r) = some x := (h.some_iff _ _).2 ⟨hx, hk.symm⟩
      obtain rfl := Option.some.inj (hprev.symm.trans hxp)
      exact Binary64.lt_asymm hlt
    · rintro ⟨⟨hx, _⟩ | ⟨rfl, hall⟩, rfl⟩
      · exact ⟨hx, rfl⟩
      · exact (hall prev ((mem_newest key _ _).1 hmem).1 hkey hlt).elim
  · intro k hk x hx
    rcases List.mem_append.1 hx with hx | hx
    · exact h.none k hk x hx
    · rintro rfl
      rw [List.mem_singleton.1 hx, hprev] at hk
      cases hk

lemma Holds.replaced {rows : List Row} {m : FiniteMap κ Row} (h : Holds key rows m) {r : Row}
    (hlt : ∀ y ∈ rows, key y = key r → Binary64.lt y.timestamp r.timestamp) :
    Holds key (rows ++ [r]) (m.set (key r) r) := by
  constructor
  · intro k x
    rw [FiniteMap.get_set, mem_newest_concat]
    split_ifs with hk
    · subst hk
      constructor
      · rintro hx
        obtain rfl := Option.some.inj hx
        exact ⟨.inr ⟨rfl, fun y hy hky => Binary64.lt_asymm (hlt y hy hky)⟩, rfl⟩
      · rintro ⟨⟨hx, hno⟩ | ⟨rfl, _⟩, hkx⟩
        · exact (hno hkx.symm (hlt x ((mem_newest key _ _).1 hx).1 hkx)).elim
        · rfl
    · rw [h.some_iff]
      constructor
      · rintro ⟨hx, rfl⟩
        exact ⟨.inl ⟨hx, fun hkr => (hk hkr.symm).elim⟩, rfl⟩
      · rintro ⟨⟨hx, _⟩ | ⟨rfl, _⟩, hkx⟩
        · exact ⟨hx, hkx⟩
        · exact (hk hkx.symm).elim
  · intro k hk x hx
    rw [FiniteMap.get_set] at hk
    split_ifs at hk with hkr
    rcases List.mem_append.1 hx with hx | hx
    · exact h.none k hk x hx
    · rw [List.mem_singleton.1 hx]
      exact Ne.symm hkr

lemma Holds.step {rows : List Row} {m : FiniteMap κ Row} (h : Holds key rows m) {r : Row}
    (ho : Ordered key (rows ++ [r])) : Holds key (rows ++ [r]) (keepNewest key m r) := by
  obtain ⟨_, hlast⟩ := Ordered.concat key ho
  rw [keepNewest]
  cases hprev : m.get (key r) with
  | none => exact h.replaced fun y hy hk => (h.none _ hprev y hy hk).elim
  | some prev =>
      obtain ⟨hmem, hkey⟩ := (h.some_iff _ _).1 hprev
      rw [mem_newest] at hmem
      dsimp only
      split_ifs with hle
      · apply h.older hprev
        exact (hlast prev hmem.1 hkey).resolve_left (fun hlt => Binary64.not_le_of_lt hlt hle)
      · apply h.replaced
        have hpr : Binary64.lt prev.timestamp r.timestamp :=
          (hlast prev hmem.1 hkey).resolve_right (fun hlt => hle (Binary64.le_of_lt hlt))
        intro y hy hk
        apply (hlast y hy hk).resolve_right
        exact fun hry => hmem.2 y hy (hk.trans hkey.symm) (Binary64.lt_trans hpr hry)

lemma holds_foldl (rows : List Row) (ho : Ordered key rows) :
    Holds key rows (rows.foldl (keepNewest key) ∅) := by
  induction rows using List.reverseRecOn with
  | nil => constructor <;> simp [newest]
  | append_singleton rows r ih =>
      rw [List.foldl_concat]
      exact (ih (Ordered.concat key ho).1).step ho

lemma Holds.values {rows : List Row} {m : FiniteMap κ Row} (h : Holds key rows m)
    (ho : Ordered key rows) : (m.toList.map Prod.snd).Perm (newest key rows) := by
  apply (List.perm_ext_iff_of_nodup ?_ ?_).2
  · intro r
    simp only [List.mem_map, Prod.exists, FiniteMap.mem_toList, h.some_iff]
    constructor
    · rintro ⟨_, x, ⟨hx, _⟩, rfl⟩
      exact hx
    · exact fun hr => ⟨key r, r, ⟨hr, rfl⟩, rfl⟩
  · apply List.pairwise_map.2
    apply m.toList_pairwise.imp_of_mem
    rintro ⟨j, a⟩ ⟨k, b⟩ ha hb hne rfl
    rw [FiniteMap.mem_toList, h.some_iff] at ha hb
    exact hne (ha.2.symm.trans hb.2)
  · exact (Ordered.nodup key ho).filter _

end Kept

inductive Counter
  | bytesReceived
  | packetsReceived
  | packetsLost
  | framesDecoded
  | frameDropped
  | nackCount
  | pliCount
  | firCount

namespace Counter

def ofRow : Counter → Row → ℕ
  | .bytesReceived, r => r.bytesReceived.toNat
  | .packetsReceived, r => r.packetsReceived.toNat
  | .packetsLost, r => r.packetsLost.toNat
  | .framesDecoded, r => r.framesDecoded.toNat
  | .frameDropped, r => r.frameDropped.toNat
  | .nackCount, r => r.nackCount.toNat
  | .pliCount, r => r.pliCount.toNat
  | .firCount, r => r.firCount.toNat

def ofTotal : Counter → VideoStreamStats → ℕ
  | .bytesReceived, t => t.bytesReceived.toNat
  | .packetsReceived, t => t.packetsReceived.toNat
  | .packetsLost, t => t.packetsLost.toNat
  | .framesDecoded, t => t.framesDecoded.toNat
  | .frameDropped, t => t.frameDropped.toNat
  | .nackCount, t => t.nackCount.toNat
  | .pliCount, t => t.pliCount.toNat
  | .firCount, t => t.firCount.toNat

lemma ofTotal_accumulate (c : Counter) (t : VideoStreamStats) (r : Row) :
    c.ofTotal (accumulate t r) = (c.ofTotal t + c.ofRow r) % 2 ^ 64 := by
  cases c <;> simp [ofTotal, ofRow, accumulate]

lemma ofTotal_lt (c : Counter) (t : VideoStreamStats) : c.ofTotal t < 2 ^ 64 := by
  cases c <;> exact UInt64.toNat_lt _

lemma ofTotal_foldl (c : Counter) (rows : List Row) (t : VideoStreamStats) :
    c.ofTotal (rows.foldl accumulate t) = (c.ofTotal t + (rows.map c.ofRow).sum) % 2 ^ 64 := by
  induction rows generalizing t with
  | nil => exact (Nat.mod_eq_of_lt (c.ofTotal_lt t)).symm
  | cons r rows ih =>
      rw [List.foldl_cons, ih, ofTotal_accumulate, List.map_cons, List.sum_cons]
      omega

lemma ofTotal_default (c : Counter) : c.ofTotal {} = 0 := by
  cases c <;> rfl

end Counter

lemma uint32_max (a b : UInt32) : max a b = if a ≤ b then b else a := rfl

lemma uint32_max_right_comm (a b c : UInt32) : max (max a b) c = max (max a c) b := by
  simp only [uint32_max]
  grind

lemma uint64_add_right_comm (a b c : UInt64) : a + b + c = a + c + b := by
  rw [UInt64.add_assoc, UInt64.add_comm b, ← UInt64.add_assoc]

instance : RightCommutative accumulate where
  right_comm t a b := by
    simp only [accumulate, uint64_add_right_comm _ a.bytesReceived,
      uint64_add_right_comm _ a.packetsReceived, uint64_add_right_comm _ a.packetsLost,
      uint64_add_right_comm _ a.framesDecoded.toUInt64, uint64_add_right_comm _ a.frameDropped,
      uint64_add_right_comm _ a.nackCount, uint64_add_right_comm _ a.pliCount,
      uint64_add_right_comm _ a.firCount, uint32_max_right_comm _ a.frameWidth,
      uint32_max_right_comm _ a.frameHeight, Binary64.max_right_comm _ a.framesPerSecond,
      Binary64.max_right_comm _ a.jitter, Binary64.max_right_comm _ a.totalDecodeTime]

def bySsrc (r : Row) : UInt32 := r.ssrc

def byStream (r : Row) : UInt32 × String := (r.ssrc, r.id)

/-- The rows as the peer connection reports them: those of one stream at different times. -/
structure Reported (items : List RTCStats) : Prop where
  ordered : Ordered bySsrc (inboundRows items)
  ssrc_ne_zero : ∀ r ∈ inboundRows items, r.ssrc ≠ 0

lemma Reported.ordered_byStream {items : List RTCStats} (h : Reported items) :
    Ordered byStream (inboundRows items) :=
  Ordered.finer bySsrc byStream h.ordered fun _ _ he => congrArg Prod.fst he

lemma inboundRows_perm {items items' : List RTCStats} (h : items'.Perm items) :
    (inboundRows items').Perm (inboundRows items) := h.filterMap _

lemma Reported.perm {items items' : List RTCStats} (h : Reported items) (hp : items'.Perm items) :
    Reported items' where
  ordered := Ordered.perm bySsrc h.ordered (inboundRows_perm hp).symm
  ssrc_ne_zero r hr := h.ssrc_ne_zero r ((inboundRows_perm hp).mem_iff.1 hr)

lemma fold_eq {items items' : List RTCStats} (h : Reported items) (hp : items'.Perm items)
    {out : VideoStreamStats} (hout : FoldInboundStats items' out) :
    out = (newest byStream (inboundRows items)).foldl accumulate {} := by
  obtain ⟨rows, hrows, rfl⟩ := hout
  have ho := (h.perm hp).ordered_byStream
  have hkept := (holds_foldl (inboundRows items') ho).values ho
  exact ((hrows.trans hkept).trans (newest_perm byStream (inboundRows_perm hp))).foldl_eq _

def leftBehind (rows : List Row) : List Row :=
  (newest byStream rows).filter fun r => rows.any (newer bySsrc r)

lemma newest_split (rows : List Row) :
    (leftBehind rows ++ newest bySsrc rows).Perm (newest byStream rows) := by
  have hnewest : newest bySsrc rows =
      (newest byStream rows).filter fun r => !rows.any (newer bySsrc r) := by
    rw [newest, newest, List.filter_filter]
    apply List.filter_congr
    intro r hr
    rw [eq_comm, Bool.and_eq_left_iff_imp]
    simp only [Bool.not_eq_true', List.any_eq_false]
    intro hno x hx hnewer
    apply hno x hx
    rw [newer, Bool.and_eq_true, decide_eq_true_iff] at hnewer ⊢
    exact ⟨congrArg Prod.fst hnewer.1, hnewer.2⟩
  rw [leftBehind, hnewest]
  exact List.filter_append_perm _ _

/-- The totals of the streams, each by its newest row, whatever the order of the report. -/
def Exact (items : List RTCStats) : Prop :=
  (∀ out, FoldInboundStats items out → ∀ c : Counter,
    c.ofTotal out = ((newest bySsrc (inboundRows items)).map c.ofRow).sum) ∧
  ∀ items', items'.Perm items → ∀ out out', FoldInboundStats items out →
    FoldInboundStats items' out' → out' = out

/-- Each total fits, and what is left behind vanishes from it. -/
def Settled (items : List RTCStats) : Prop :=
  ∀ c : Counter, ((newest bySsrc (inboundRows items)).map c.ofRow).sum < 2 ^ 64 ∧
    2 ^ 64 ∣ ((leftBehind (inboundRows items)).map c.ofRow).sum

lemma ofTotal_fold {items : List RTCStats} (h : Reported items) {out : VideoStreamStats}
    (hout : FoldInboundStats items out) (c : Counter) :
    c.ofTotal out = (((leftBehind (inboundRows items)).map c.ofRow).sum +
      ((newest bySsrc (inboundRows items)).map c.ofRow).sum) % 2 ^ 64 := by
  have hsplit := ((newest_split (inboundRows items)).map c.ofRow).sum_eq
  rw [List.map_append, List.sum_append] at hsplit
  rw [fold_eq h (.refl _) hout, c.ofTotal_foldl, c.ofTotal_default, zero_add, hsplit]

lemma foldInboundStats_mem (items : List RTCStats) :
    FoldInboundStats items (foldInboundStats items) := ⟨_, .refl _, rfl⟩

theorem inbound_fold_exact_iff (items : List RTCStats) (h : Reported items) :
    Exact items ↔ Settled items := by
  constructor
  · rintro ⟨htotal, _⟩ c
    have hc := htotal _ (foldInboundStats_mem items) c
    rw [ofTotal_fold h (foldInboundStats_mem items)] at hc
    generalize ((leftBehind (inboundRows items)).map c.ofRow).sum = behind at hc ⊢
    generalize ((newest bySsrc (inboundRows items)).map c.ofRow).sum = total at hc ⊢
    omega
  · intro hs
    constructor
    · intro out hout c
      have hc := hs c
      rw [ofTotal_fold h hout]
      generalize ((leftBehind (inboundRows items)).map c.ofRow).sum = behind at hc ⊢
      generalize ((newest bySsrc (inboundRows items)).map c.ofRow).sum = total at hc ⊢
      omega
    · intro items' hp out out' hout hout'
      rw [fold_eq h (.refl _) hout, fold_eq h hp hout']

def row (id : String) (timestamp : ℚ) (bytes : UInt64) : Row where
  id := id
  timestamp := .finite timestamp
  ssrc := 1
  kind := "video"
  packetsReceived := 0
  packetsLost := 0
  bytesReceived := bytes
  framesDecoded := 0
  frameWidth := 1280
  frameHeight := 720
  framesPerSecond := .finite 24
  jitter := .finite 0
  totalDecodeTime := .finite 0
  frameDropped := 0
  nackCount := 0
  pliCount := 0
  firCount := 0

def frozenAndLive (frozen live : String) : List RTCStats :=
  [.inboundRtp (row frozen 10 100), .inboundRtp (row live 20 900)]

lemma frozenAndLive_reported (frozen live : String) : Reported (frozenAndLive frozen live) where
  ordered := by
    simp [Ordered, inboundRows, frozenAndLive, row, Binary64.lt, Binary64.le]
    norm_num
  ssrc_ne_zero := by simp [inboundRows, frozenAndLive, row]

theorem inbound_fold_one_stream : Exact (frozenAndLive "x" "x") := by
  refine (inbound_fold_exact_iff _ (frozenAndLive_reported "x" "x")).2 ?_
  intro c
  cases c <;> decide

theorem inbound_fold_counts_frozen : ¬ ∀ items, Reported items → Exact items := by
  intro h
  have hbytes := (h _ (frozenAndLive_reported "x" "y")).1 _ (foldInboundStats_mem _) .bytesReceived
  revert hbytes
  decide

end MediaServo.ClientProofs.Stats
