import MediaServo.Weaknet.Filters
import MediaServo.WeaknetProofs.Merging

/-! The packets that the legs take are the UDP packets of the scope. -/

namespace MediaServo.Weaknet

open MediaServo.Foundations

def Outbound (scope : ScopeSel) (ports : List Port) (pairs : List (Port × Port)) (pkt : Packet) :
    Prop :=
  match scope with
  | .media => pkt.sport ∈ ports
  | .stream | .device => (pkt.sport, pkt.dport) ∈ pairs

def Inbound (scope : ScopeSel) (ports : List Port) (pairs : List (Port × Port)) (pkt : Packet) :
    Prop :=
  match scope with
  | .media => pkt.dport ∈ ports
  | .stream | .device => (pkt.dport, pkt.sport) ∈ pairs

/-- A packet of the scope in a direction. -/
def InScope (scope : ScopeSel) (dir : Dir) (ports : List Port) (pairs : List (Port × Port))
    (pkt : Packet) : Prop :=
  (dir.isOut ∧ Outbound scope ports pairs pkt) ∨ (dir.isIn ∧ Inbound scope ports pairs pkt)

variable {scope : ScopeSel} {kind : IfaceKind} {dir : Dir} {ports : List Port}
  {pairs : List (Port × Port)} {pkt : Packet} {legs ingress : List LegFilter}

def LegFilter.takes (leg : LegFilter) (pkt : Packet) : Prop := ∀ key ∈ leg.keys, key.holds pkt

section Legs

lemma mediaLeg_takes (k : MatchKind) (p : Port) : (mediaLeg k p).takes pkt ↔
    pkt.protocol = udpProtocol ∧ (match k with | .sport => pkt.sport | .dport => pkt.dport) = p := by
  have hbyte : ∀ x : BitVec 8, x &&& 0xff#8 = x := fun x => BitVec.and_allOnes
  have hport : ∀ x : Port, x &&& 0xffff#16 = x := fun x => BitVec.and_allOnes
  cases k <;> simp [LegFilter.takes, LegFilter.keys, mediaLeg, Key.holds, hbyte, hport]

lemma andLeg_takes (s d : Port) : (andLeg [(.sport, s), (.dport, d)]).takes pkt ↔
    pkt.protocol = udpProtocol ∧ pkt.sport = s ∧ pkt.dport = d := by
  have hbyte : ∀ x : BitVec 8, x &&& 0xff#8 = x := fun x => BitVec.and_allOnes
  have hport : ∀ x : Port, x &&& 0xffff#16 = x := fun x => BitVec.and_allOnes
  simp [LegFilter.takes, LegFilter.keys, andLeg, Key.holds, hbyte, hport]

lemma legsOf_takes (scope : ScopeSel) (dir : Dir) :
    (∃ leg ∈ legsOf scope dir ports pairs, leg.takes pkt) ↔
      pkt.protocol = udpProtocol ∧ InScope scope dir ports pairs pkt := by
  have hpairs : (∃ leg ∈ legsOf .stream dir ports pairs, leg.takes pkt) ↔
      pkt.protocol = udpProtocol ∧ InScope .stream dir ports pairs pkt := by
    simp only [legsOf, List.mem_flatMap, List.mem_append, InScope, Outbound, Inbound, Prod.exists]
    constructor
    · rintro ⟨leg, ⟨l, r, hmem, hleg | hleg⟩, htakes⟩
      · split_ifs at hleg with hdir
        · rw [List.mem_singleton.1 hleg, andLeg_takes] at htakes
          obtain ⟨hudp, rfl, rfl⟩ := htakes
          exact ⟨hudp, .inl ⟨hdir, hmem⟩⟩
        · cases hleg
      · split_ifs at hleg with hdir
        · rw [List.mem_singleton.1 hleg, andLeg_takes] at htakes
          obtain ⟨hudp, rfl, rfl⟩ := htakes
          exact ⟨hudp, .inr ⟨hdir, hmem⟩⟩
        · cases hleg
    · rintro ⟨hudp, ⟨hdir, hmem⟩ | ⟨hdir, hmem⟩⟩
      · refine ⟨_, ⟨_, _, hmem, .inl ?_⟩, (andLeg_takes _ _).2 ⟨hudp, rfl, rfl⟩⟩
        rw [if_pos hdir]
        exact List.mem_singleton_self _
      · refine ⟨_, ⟨_, _, hmem, .inr ?_⟩, (andLeg_takes _ _).2 ⟨hudp, rfl, rfl⟩⟩
        rw [if_pos hdir]
        exact List.mem_singleton_self _
  cases scope with
  | stream => exact hpairs
  | device => exact hpairs
  | media =>
    simp only [legsOf, List.mem_append, InScope, Outbound, Inbound]
    constructor
    · rintro ⟨leg, hleg | hleg, htakes⟩
      · split_ifs at hleg with hdir
        · obtain ⟨p, hp, rfl⟩ := List.mem_map.1 hleg
          obtain ⟨hudp, rfl⟩ := (mediaLeg_takes _ _).1 htakes
          exact ⟨hudp, .inl ⟨hdir, hp⟩⟩
        · cases hleg
      · split_ifs at hleg with hdir
        · obtain ⟨p, hp, rfl⟩ := List.mem_map.1 hleg
          obtain ⟨hudp, rfl⟩ := (mediaLeg_takes _ _).1 htakes
          exact ⟨hudp, .inr ⟨hdir, hp⟩⟩
        · cases hleg
    · rintro ⟨hudp, ⟨hdir, hp⟩ | ⟨hdir, hp⟩⟩
      · refine ⟨_, .inl ?_, (mediaLeg_takes .sport _).2 ⟨hudp, rfl⟩⟩
        rw [if_pos hdir]
        exact List.mem_map_of_mem hp
      · refine ⟨_, .inr ?_, (mediaLeg_takes .dport _).2 ⟨hudp, rfl⟩⟩
        rw [if_pos hdir]
        exact List.mem_map_of_mem hp

lemma legsOf_flowid : ∀ leg ∈ legsOf scope dir ports pairs, leg.flowid = mediaFlowid := by
  intro leg hleg
  cases scope <;>
    simp only [legsOf, List.mem_append, List.mem_flatMap] at hleg
  · obtain hleg | hleg := hleg <;> split_ifs at hleg
    · obtain ⟨p, -, rfl⟩ := List.mem_map.1 hleg
      rfl
    · cases hleg
    · obtain ⟨p, -, rfl⟩ := List.mem_map.1 hleg
      rfl
    · cases hleg
  all_goals
    obtain ⟨⟨l, r⟩, -, hleg | hleg⟩ := hleg <;> split_ifs at hleg
    · rw [List.mem_singleton.1 hleg]
      rfl
    · cases hleg
    · rw [List.mem_singleton.1 hleg]
      rfl
    · cases hleg

lemma buildFilterLegs_ok : buildFilterLegs scope kind dir ports pairs = .ok legs ↔
    legsOf scope dir ports pairs = legs ∧ legs ≠ [] := by
  simp only [buildFilterLegs, List.isEmpty_iff]
  constructor
  · intro h
    split at h
    next => cases h
    next hne =>
      cases h
      exact ⟨rfl, hne⟩
  · rintro ⟨rfl, hne⟩
    rw [if_neg hne]

end Legs

section Split

lemma buildFilterLegs_takes (h : buildFilterLegs scope kind dir ports pairs = .ok legs) :
    (∃ leg ∈ legs, leg.takes pkt) ↔ pkt.protocol = udpProtocol ∧ InScope scope dir ports pairs pkt := by
  obtain ⟨rfl, -⟩ := buildFilterLegs_ok.1 h
  exact legsOf_takes scope dir

lemma inScope_both : InScope scope .both ports pairs pkt ↔
    InScope scope .out ports pairs pkt ∨ InScope scope .in ports pairs pkt := by
  simp [InScope, Dir.isOut, Dir.isIn]

lemma splitLegs_takes (h : splitLegs scope kind dir ports pairs = .ok (legs, ingress)) :
    ((∃ leg ∈ legs, leg.takes pkt) ∨ ∃ leg ∈ ingress, leg.takes pkt) ↔
      pkt.protocol = udpProtocol ∧ InScope scope dir ports pairs pkt := by
  rw [splitLegs] at h
  obtain ⟨out, hout, h⟩ := bind_eq_ok.1 h
  obtain ⟨inward, hin, h⟩ := bind_eq_ok.1 h
  cases h
  by_cases hifb : ifbNeeded kind dir
  · rw [ingressLegs, if_pos hifb] at hin
    rw [buildFilterLegs_takes hin]
    simp only [rootLegs, hifb, Bool.not_true, Bool.false_eq_true, if_false] at hout
    cases dir with
    | both =>
      rw [if_pos rfl] at hout
      rw [buildFilterLegs_takes hout, inScope_both]
      tauto
    | «in» =>
      cases hout
      simp
    | out => simp [ifbNeeded, Dir.isIn] at hifb
  · rw [ingressLegs, if_neg hifb] at hin
    cases hin
    rw [rootLegs, if_pos (by simpa using hifb)] at hout
    rw [buildFilterLegs_takes hout]
    simp

lemma legsOf_eq_nil : legsOf scope dir ports pairs = [] ↔
    (scope = .media ∧ ports = []) ∨ (scope ≠ .media ∧ pairs = []) := by
  cases scope with
  | media => cases ports <;> cases dir <;> simp [legsOf, Dir.isOut, Dir.isIn]
  | _ => cases pairs <;> cases dir <;> simp [legsOf, Dir.isOut, Dir.isIn]

lemma splitLegs_both {all : List LegFilter}
    (h : buildFilterLegs scope .physical .both ports pairs = .ok all) :
    ∃ legs ingress, buildFilterLegs scope .physical .out ports pairs = .ok legs ∧
      buildFilterLegs scope .physical .in ports pairs = .ok ingress ∧
      splitLegs scope .physical .both ports pairs = .ok (legs, ingress) := by
  obtain ⟨rfl, hne⟩ := buildFilterLegs_ok.1 h
  have hbuilt : ∀ dir : Dir, buildFilterLegs scope .physical dir ports pairs =
      .ok (legsOf scope dir ports pairs) := by
    intro dir
    refine buildFilterLegs_ok.2 ⟨rfl, ?_⟩
    rw [ne_eq, legsOf_eq_nil] at hne ⊢
    exact hne
  refine ⟨_, _, hbuilt .out, hbuilt .in, ?_⟩
  have hroot := hbuilt .out
  have hmirrored := hbuilt .in
  rw [splitLegs, rootLegs, if_neg (by decide), if_pos rfl, hroot, ingressLegs, if_pos (by decide),
    hmirrored]
  rfl

lemma sessionFilters_takes (dev : String) :
    (∃ f ∈ sessionFilters dev legs ingress, f.takes pkt) ↔
      (∃ leg ∈ legs, leg.takes pkt) ∨ ∃ leg ∈ ingress, leg.takes pkt := by
  simp [sessionFilters, or_and_right, exists_or, FilterArgv.takes, LegFilter.takes, filterAddArgv,
    mirredFilterArgv]

end Split

theorem filter_legs_exact (scope : ScopeSel) (kind : IfaceKind) (dir : Dir) (ports : List Port)
    (pairs : List (Port × Port)) (dev prio : String) (pkt : Packet) :
    (∀ legs, buildFilterLegs scope kind dir ports pairs = .ok legs →
      ((∃ leg ∈ legs, (filterAddArgv dev prio leg).takes pkt ∧ leg.flowid = mediaFlowid) ↔
        pkt.protocol = udpProtocol ∧ InScope scope dir ports pairs pkt)) ∧
    (∀ legs ingress, splitLegs scope kind dir ports pairs = .ok (legs, ingress) →
      ((∃ f ∈ sessionFilters dev legs ingress, f.takes pkt) ↔
        pkt.protocol = udpProtocol ∧ InScope scope dir ports pairs pkt)) ∧
    ∀ all, buildFilterLegs scope .physical .both ports pairs = .ok all →
      ∃ legs ingress, buildFilterLegs scope .physical .out ports pairs = .ok legs ∧
        buildFilterLegs scope .physical .in ports pairs = .ok ingress ∧
        splitLegs scope .physical .both ports pairs = .ok (legs, ingress) ∧
        ((∃ f ∈ sessionFilters dev legs ingress, f.takes pkt) ↔
          ∃ leg ∈ all, (filterAddArgv dev prio leg).takes pkt) := by
  have htakes : ∀ leg : LegFilter, (filterAddArgv dev prio leg).takes pkt ↔ leg.takes pkt := by
    intro leg
    simp [FilterArgv.takes, LegFilter.takes, filterAddArgv]
  refine ⟨?_, ?_, ?_⟩
  · intro legs h
    rw [← buildFilterLegs_takes h]
    constructor
    · rintro ⟨leg, hleg, hpkt, -⟩
      exact ⟨leg, hleg, (htakes leg).1 hpkt⟩
    · rintro ⟨leg, hleg, hpkt⟩
      obtain ⟨rfl, -⟩ := buildFilterLegs_ok.1 h
      exact ⟨leg, hleg, (htakes leg).2 hpkt, legsOf_flowid leg hleg⟩
  · intro legs ingress h
    rw [sessionFilters_takes, splitLegs_takes h]
  · intro all h
    obtain ⟨legs, ingress, hout, hin, hsplit⟩ := splitLegs_both h
    refine ⟨legs, ingress, hout, hin, hsplit, ?_⟩
    rw [sessionFilters_takes, splitLegs_takes hsplit, ← buildFilterLegs_takes h]
    simp only [htakes]

theorem filter_legs_pair : ∃ legs ingress,
    splitLegs .stream .physical .both [] [(40020, 5000)] = .ok (legs, ingress) ∧
      ∃ f ∈ sessionFilters "eth0" legs ingress, f.takes ⟨17, 5000, 40020⟩ := by
  obtain ⟨hlegs, -, hboth⟩ :=
    filter_legs_exact .stream .physical .both [] [(40020, 5000)] "eth0" "1" ⟨17, 5000, 40020⟩
  obtain ⟨legs, ingress, -, -, hsplit, htakes⟩ := hboth _ rfl
  obtain ⟨leg, hleg, hpkt, -⟩ := (hlegs _ rfl).2 ⟨rfl, .inr ⟨rfl, List.mem_singleton_self _⟩⟩
  exact ⟨legs, ingress, hsplit, htakes.2 ⟨leg, hleg, hpkt⟩⟩

end MediaServo.Weaknet
