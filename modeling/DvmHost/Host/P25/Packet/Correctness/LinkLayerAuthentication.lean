import DvmHost.Host.P25.Packet.Correctness.SiteSteps

/-!
# `Host.P25.Packet.Correctness.LinkLayerAuthentication` — who may register at a site that asks for proof

A site that requires link layer authentication answers a registration request with a demand: five random octets, of
which the unit has to return four octets of a cipher text. What the site remembers is one number for each unit. It is
`0` for a unit that never asked, and it stays when it was answered.

A `Session` is the site together with what the run knows of the demands: those that no response has used up, and the
units whose last demand is open. A registration is *authentic* if the response answers an unused demand. Every step is
authentic exactly when responses that count come from units with an open demand (`authenticated_iff`), and neither the
site's own number nor its comparison sees to that.
-/

namespace DvmHost

open Lib

namespace P25

namespace ControlSignaling

/-! ## Demands and answers -/

/-- The octets of a demand. -/
def octetsOf (RC : Bytes) : List UInt8 := (List.range P25_AUTH_RAND_CHLNG_LENGTH_BYTES).map RC

/-- The answer to a demand: the first four octets of the block `RC ‖ 0` under the key. -/
def answer (c : Settings) (RC : List UInt8) : List UInt8 :=
  (List.range P25_AUTH_RES_LENGTH_BYTES).map (c.encryptECB (fun i => RC.getD i 0x00) c.llaKS)

/-- `RES1` of a response. -/
def res1 (tsbk : TSBKObject) : List UInt8 :=
  (List.range P25_AUTH_RES_LENGTH_BYTES).map fun i => tsbk.authRes.getD i 0

/-- The octets that the site checks a unit against. -/
def storedOctets (s : ControlSignaling) (srcId : UInt32) : List UInt8 := octetsOf (challengeOctets (s.challengeFor srcId))

theorem expandedRAND1_eq (RC : Bytes) : expandedRAND1 RC = fun i => (octetsOf RC).getD i 0x00 := by
  funext i
  unfold expandedRAND1 octetsOf
  by_cases hi : i < P25_AUTH_RAND_CHLNG_LENGTH_BYTES
  · rw [if_pos hi, List.getD_eq_getElem _ _ (by simpa using hi)]
    simp
  · rw [if_neg hi, List.getD_eq_default _ _ (by simpa using hi)]

/-- The comparison of the source: the response is the answer to the stored octets. -/
theorem authFailed_eq_false_iff (c : Settings) (s : ControlSignaling) (tsbk : TSBKObject) :
    s.authFailed c tsbk.srcId tsbk.authRes = false ↔ res1 tsbk = answer c (s.storedOctets tsbk.srcId) := by
  unfold authFailed res1 answer expectedRes storedOctets
  rw [expandedRAND1_eq, List.map_inj_left, List.any_eq_false]
  refine forall₂_congr fun i _ => ?_
  simp only [decide_eq_true_eq, ne_eq, not_not]
  exact eq_comm

/-- A word and an octet come back from the number that they are kept as. The sign of the word is extended, and the
    shift that takes the word out again drops it. -/
theorem challenge_parts (v : UInt32) (b : UInt8) {challenge : UInt64}
    (h : challenge = UInt64.ofBitVec (v.toBitVec.signExtend 64) <<< (8 : UInt64) + b.toUInt64) :
    (challenge >>> (8 : UInt64)).toUInt32 = v ∧ (challenge &&& 0xFF).toUInt8 = b := by
  have hext : (UInt64.ofBitVec (v.toBitVec.signExtend 64)).toNat % 2 ^ 32 = v.toNat := by
    show (v.toBitVec.signExtend 64).toNat % 2 ^ 32 = v.toNat
    rw [BitVec.toNat_signExtend]
    have hv : v.toBitVec.toNat = v.toNat := rfl
    have hlt := v.toNat_lt
    split
    · rw [BitVec.toNat_setWidth, hv]
      omega
    · rw [BitVec.toNat_setWidth, hv]
      omega
  generalize UInt64.ofBitVec (v.toBitVec.signExtend 64) = w at h hext
  have hb := b.toNat_lt
  have hnat : challenge.toNat = w.toNat * 2 ^ 8 % 2 ^ 64 + b.toNat := by
    rw [h, UInt64.toNat_add, UInt64.toNat_shiftLeft, Nat.shiftLeft_eq]
    show (w.toNat * 2 ^ 8 % 2 ^ 64 + b.toUInt64.toNat) % 2 ^ 64 = _
    rw [UInt8.toNat_toUInt64]
    omega
  constructor
  · refine UInt32.toNat_inj.mp ?_
    rw [UInt64.toNat_toUInt32, UInt64.toNat_shiftRight, Nat.shiftRight_eq_div_pow]
    show challenge.toNat / 2 ^ 8 % 2 ^ 32 = v.toNat
    omega
  · refine UInt8.toNat_inj.mp ?_
    rw [UInt64.toNat_toUInt8, UInt64.toNat_and]
    show (challenge.toNat &&& (2 ^ 8 - 1)) % 2 ^ 8 = b.toNat
    rw [Nat.and_two_pow_sub_one_eq_mod]
    omega

/-- The octets of two buffers that agree on them. -/
theorem octetsOf_congr {RC RC' : Bytes} (h : ∀ i < P25_AUTH_RAND_CHLNG_LENGTH_BYTES, RC i = RC' i) :
    octetsOf RC = octetsOf RC' :=
  List.map_congr_left fun i hi => h i (List.mem_range.mp hi)

/-- **A demand comes back from the table as it was made.** -/
theorem octetsOf_challengeOctets (rnd rnd' : UInt32) :
    octetsOf (challengeOctets (challengeOf (demandOctets rnd rnd'))) = octetsOf (demandOctets rnd rnd') := by
  have hword : (getUInt32 0).value (demandOctets rnd rnd') = rnd := by
    unfold demandOctets
    rw [value_getUInt32]
    simp (disch := decide) only [setByte_of_ne]
    rw [← value_getUInt32, value_getUInt32_setUInt32]
  have hlast : demandOctets rnd rnd' 4 = (rnd' &&& 0xFF).toUInt8 := setByte_same _ _ _
  have hchallenge : challengeOf (demandOctets rnd rnd') =
      UInt64.ofBitVec (rnd.toBitVec.signExtend 64) <<< (8 : UInt64) + (demandOctets rnd rnd' 4).toUInt64 := by
    unfold challengeOf
    rw [hword]
  obtain ⟨hfirst, hfifth⟩ := challenge_parts rnd (demandOctets rnd rnd' 4) hchallenge
  refine octetsOf_congr fun i hi => ?_
  unfold challengeOctets
  rw [hfirst, hfifth, hlast]
  rfl

/-- The octets that are stored of a unit whose demand was just made, and of every other unit. -/
theorem storedOctets_insert {s s' : ControlSignaling} {srcId : UInt32} (rnd rnd' : UInt32)
    (h : s'.llaDemandTable = s.llaDemandTable.insert srcId (challengeOf (demandOctets rnd rnd'))) (u : UInt32) :
    s'.storedOctets u = if u = srcId then octetsOf (demandOctets rnd rnd') else s.storedOctets u := by
  unfold storedOctets challengeFor
  rw [h]
  split
  · next heq =>
      rw [heq, AList.lookup_insert]
      exact octetsOf_challengeOctets rnd rnd'
  · next hne => rw [AList.lookup_insert_ne hne]

theorem storedOctets_congr {s s' : ControlSignaling} (h : s'.llaDemandTable = s.llaDemandTable) (u : UInt32) :
    s'.storedOctets u = s.storedOctets u := by
  unfold storedOctets challengeFor
  rw [h]

/-- **A demand goes out with the octets that are stored of it.** -/
theorem sent_demand {c : Settings} (s : ControlSignaling) {tsbk : TSBKObject} (hcontrol : c.enableControl = true)
    (hduplex : c.duplex = true) (hlla : c.requireLLAForReg = true) (hlco : tsbk.lco = TSBK_IOSP_U_REG)
    (rnd rnd' : UInt32) (permitted : Bool) :
    ∃ x ∈ (s.process c rnd rnd' permitted tsbk).sent, x.pdu.cls = .MBT_OSP_AUTH_DMD ∧ x.pdu.dstId = tsbk.srcId ∧
      x.pdu.authRC = octetsOf (demandOctets rnd rnd') := by
  obtain ⟨rfState, heq⟩ := process_eq c s rnd rnd' permitted tsbk hcontrol
  rw [heq, dispatch_uReg _ hlco, processUReg_eq _ hcontrol hlla]
  generalize (if c.ackTSBKRequests then
      (s.begun tsbk).writeRfTsduAckFne c tsbk.srcId TSBK_IOSP_U_REG true else s.begun tsbk) = t
  unfold left writeRfTsduAuthDmd writeRfTsduAmbt
  rw [if_neg (by simp [hcontrol]), if_neg (by simp [hduplex])]
  exact ⟨_, List.mem_append_right _ (List.mem_singleton.mpr rfl), rfl, rfl, rfl⟩

/-! ## Sessions -/

/-- A site, the demands to each unit that no response has used up, and whether the last one is still open. -/
structure Session where
  site : ControlSignaling
  unused : UInt32 → List (List UInt8) := fun _ => []
  pending : UInt32 → Bool := fun _ => false

namespace Session

variable (c : Settings)

/-- A call, and what it does to the demands. A demand is made when the message that carries it goes out; a response
    uses up every demand that it answers. -/
def exec (S : Session) (op : Op) : Session :=
  let S' := { S with site := S.site.exec c op }
  match op with
  | .rf tsbk rnd rnd' _ =>
      if !c.enableControl then S'
      else if tsbk.lco = TSBK_IOSP_U_REG then
        let made := if c.duplex then [octetsOf (demandOctets rnd rnd')] else []
        { S' with
          unused := Function.update S.unused tsbk.srcId (S.unused tsbk.srcId ++ made)
          pending := Function.update S.pending tsbk.srcId c.duplex }
      else if tsbk.lco = TSBK_ISP_AUTH_RESP then
        let answered := decide (res1 tsbk = answer c (S.site.storedOctets tsbk.srcId))
        { S' with
          unused := Function.update S.unused tsbk.srcId
            ((S.unused tsbk.srcId).filter fun RC => res1 tsbk ≠ answer c RC)
          pending := Function.update S.pending tsbk.srcId (S.pending tsbk.srcId && !answered) }
      else S'
  | _ => S'

theorem exec_site (S : Session) (op : Op) : (exec c S op).site = S.site.exec c op := by
  cases op with
  | rf tsbk rnd rnd' permitted =>
      unfold exec
      dsimp only
      split_ifs <;> rfl
  | net | grant | grantUpdate | callTerm | releaseGrant | touchGrant | clock | traffic | lookups => rfl

/-- A step: the call, from tables that iterate in any order. -/
def step (S : Session) (op : Op) (S' : Session) : Prop :=
  ∃ affiliations, AffiliationLookup.SameTables S.site.affiliations affiliations ∧
    S' = exec c { S with site := { S.site with affiliations } } op

/-- A site that has made no demand. -/
def start (acl : AccessControl) (affiliations : AffiliationLookup) : Session where
  site := { acl, affiliations }

/-- **What is asked of a step**: a unit that it registers has sent the answer to a demand that was made to it and is
    not used up. -/
def Authentic (S : Session) (op : Op) : Prop :=
  ∀ S', step c S op S' → ∀ u, S'.site.affiliations.isUnitReg u = true → S.site.affiliations.isUnitReg u = false →
    ∃ tsbk rnd rnd' permitted, op = .rf tsbk rnd rnd' permitted ∧ tsbk.lco = TSBK_ISP_AUTH_RESP ∧ tsbk.srcId = u ∧
      ∃ RC ∈ S.unused u, res1 tsbk = answer c RC

/-- A response of an accepted unit that is not registered, and that answers what is stored of it, comes while the last
    demand to the unit is open. -/
def Meets (S : Session) (op : Op) : Prop :=
  ∀ tsbk rnd rnd' permitted, op = .rf tsbk rnd rnd' permitted → c.enableControl = true →
    tsbk.lco = TSBK_ISP_AUTH_RESP → S.site.affiliations.isUnitReg tsbk.srcId = false →
    S.site.uRegResponse c tsbk.srcId tsbk.sysId = P25_RSP_ACCEPT →
    res1 tsbk = answer c (S.site.storedOctets tsbk.srcId) → S.pending tsbk.srcId = true

/-- The last demand to a unit is what is stored of it. Once it is closed, no other demand has the same answer. -/
structure Kept (S : Session) : Prop where
  opened : ∀ u, S.pending u = true → S.site.storedOctets u ∈ S.unused u
  closed : ∀ u, S.pending u = false → ∀ RC ∈ S.unused u, answer c RC ≠ answer c (S.site.storedOctets u)
  silent : c.duplex = false → ∀ u, S.unused u = []

variable {c}

theorem kept_start (acl : AccessControl) (affiliations : AffiliationLookup) : Kept c (start acl affiliations) := by
  refine ⟨fun u hu => absurd hu Bool.false_ne_true, fun u _ RC hRC => absurd hRC List.not_mem_nil, fun _ _ => rfl⟩

/-- The tables of the lookup do not matter to the demands. -/
theorem Kept.of_affiliations {S : Session} (h : Kept c S) (affiliations : AffiliationLookup) :
    Kept c { S with site := { S.site with affiliations } } := ⟨h.opened, h.closed, h.silent⟩

/-- A call that leaves the demands alone. -/
theorem Kept.of_demands {S S' : Session} (h : Kept c S) (hdemands : S'.site.llaDemandTable = S.site.llaDemandTable)
    (hunused : S'.unused = S.unused) (hpending : S'.pending = S.pending) : Kept c S' := by
  have hstored := storedOctets_congr hdemands
  refine ⟨fun u hu => ?_, fun u hu RC hRC => ?_, fun hduplex u => ?_⟩
  · rw [hstored, hunused]
    exact h.opened u (hpending ▸ hu)
  · rw [hstored]
    exact h.closed u (hpending ▸ hu) RC (hunused ▸ hRC)
  · rw [hunused]
    exact h.silent hduplex u

/-- **A demand.** The new one takes the place of the stored one. -/
theorem Kept.demand {S S' : Session} (h : Kept c S) {srcId rnd rnd' : UInt32}
    (hdemands : S'.site.llaDemandTable = S.site.llaDemandTable.insert srcId (challengeOf (demandOctets rnd rnd')))
    (hunused : S'.unused = Function.update S.unused srcId
      (S.unused srcId ++ if c.duplex then [octetsOf (demandOctets rnd rnd')] else []))
    (hpending : S'.pending = Function.update S.pending srcId c.duplex) : Kept c S' := by
  have hstored := storedOctets_insert rnd rnd' hdemands
  refine ⟨fun u hu => ?_, fun u hu RC hRC => ?_, fun hduplex u => ?_⟩
  · rw [hstored, hunused]
    by_cases heq : u = srcId
    · subst heq
      rw [hpending, Function.update_self] at hu
      rw [if_pos rfl, Function.update_self, if_pos hu]
      exact List.mem_append_right _ List.mem_cons_self
    · rw [hpending, Function.update_of_ne heq] at hu
      rw [if_neg heq, Function.update_of_ne heq]
      exact h.opened u hu
  · rw [hstored]
    by_cases heq : u = srcId
    · subst heq
      rw [hpending, Function.update_self] at hu
      -- nothing goes out of such a site
      rw [hunused, Function.update_self, h.silent hu, hu] at hRC
      exact absurd hRC List.not_mem_nil
    · rw [hpending, Function.update_of_ne heq] at hu
      rw [hunused, Function.update_of_ne heq] at hRC
      rw [if_neg heq]
      exact h.closed u hu RC hRC
  · rw [hunused]
    by_cases heq : u = srcId
    · rw [heq, Function.update_self, h.silent hduplex, hduplex]
      rfl
    · rw [Function.update_of_ne heq]
      exact h.silent hduplex u

/-- **A response.** What it answers is used up, the stored demand among it or not. -/
theorem Kept.response {S S' : Session} (h : Kept c S) (tsbk : TSBKObject)
    (hdemands : S'.site.llaDemandTable = S.site.llaDemandTable)
    (hunused : S'.unused = Function.update S.unused tsbk.srcId
      ((S.unused tsbk.srcId).filter fun RC => res1 tsbk ≠ answer c RC))
    (hpending : S'.pending = Function.update S.pending tsbk.srcId (S.pending tsbk.srcId &&
      !decide (res1 tsbk = answer c (S.site.storedOctets tsbk.srcId)))) : Kept c S' := by
  have hstored := storedOctets_congr hdemands
  refine ⟨fun u hu => ?_, fun u hu RC hRC => ?_, fun hduplex u => ?_⟩
  · rw [hstored, hunused]
    by_cases heq : u = tsbk.srcId
    · subst heq
      rw [hpending, Function.update_self, Bool.and_eq_true, Bool.not_eq_true', decide_eq_false_iff_not] at hu
      rw [Function.update_self]
      exact List.mem_filter.mpr ⟨h.opened _ hu.1, decide_eq_true hu.2⟩
    · rw [hpending, Function.update_of_ne heq] at hu
      rw [Function.update_of_ne heq]
      exact h.opened u hu
  · rw [hstored]
    by_cases heq : u = tsbk.srcId
    · subst heq
      rw [hpending, Function.update_self, Bool.and_eq_false_iff, Bool.not_eq_false', decide_eq_true_eq] at hu
      rw [hunused, Function.update_self] at hRC
      obtain ⟨hmem, hother⟩ := List.mem_filter.mp hRC
      rcases hu with hclosed | hanswered
      · exact h.closed _ hclosed RC hmem
      · rw [← hanswered]
        exact fun heq => of_decide_eq_true hother heq.symm
    · rw [hpending, Function.update_of_ne heq] at hu
      rw [hunused, Function.update_of_ne heq] at hRC
      exact h.closed u hu RC hRC
  · rw [hunused]
    by_cases heq : u = tsbk.srcId
    · rw [heq, Function.update_self, h.silent hduplex]
      rfl
    · rw [Function.update_of_ne heq]
      exact h.silent hduplex u

/-- What a call does to the demands, and whom it registers: nothing and nobody, a demand and nobody, or a response and
    at most the unit that sent it. -/
inductive Effect (S : Session) (op : Op) (S' : Session) : Prop where
  | quiet (hother : ∀ tsbk rnd rnd' permitted, op = .rf tsbk rnd rnd' permitted → c.enableControl = true →
        tsbk.lco ≠ TSBK_ISP_AUTH_RESP)
      (hdemands : S'.site.llaDemandTable = S.site.llaDemandTable)
      (hunused : S'.unused = S.unused) (hpending : S'.pending = S.pending)
      (hnobody : ∀ u, S'.site.affiliations.isUnitReg u = true → S.site.affiliations.isUnitReg u = true)
  | demand (tsbk : TSBKObject) (rnd rnd' : UInt32) (permitted : Bool) (hop : op = .rf tsbk rnd rnd' permitted)
      (hlco : tsbk.lco = TSBK_IOSP_U_REG)
      (hdemands : S'.site.llaDemandTable = S.site.llaDemandTable.insert tsbk.srcId (challengeOf (demandOctets rnd rnd')))
      (hunused : S'.unused = Function.update S.unused tsbk.srcId
        (S.unused tsbk.srcId ++ if c.duplex then [octetsOf (demandOctets rnd rnd')] else []))
      (hpending : S'.pending = Function.update S.pending tsbk.srcId c.duplex)
      (hnobody : ∀ u, S'.site.affiliations.isUnitReg u = true → S.site.affiliations.isUnitReg u = true)
  | response (tsbk : TSBKObject) (rnd rnd' : UInt32) (permitted : Bool) (hop : op = .rf tsbk rnd rnd' permitted)
      (hcontrol : c.enableControl = true) (hlco : tsbk.lco = TSBK_ISP_AUTH_RESP)
      (hdemands : S'.site.llaDemandTable = S.site.llaDemandTable)
      (hunused : S'.unused = Function.update S.unused tsbk.srcId
        ((S.unused tsbk.srcId).filter fun RC => res1 tsbk ≠ answer c RC))
      (hpending : S'.pending = Function.update S.pending tsbk.srcId (S.pending tsbk.srcId &&
        !decide (res1 tsbk = answer c (S.site.storedOctets tsbk.srcId))))
      (hwho : ∀ u, S'.site.affiliations.isUnitReg u = true ↔ S.site.affiliations.isUnitReg u = true ∨
        (u = tsbk.srcId ∧ res1 tsbk = answer c (S.site.storedOctets tsbk.srcId) ∧
          S.site.uRegResponse c tsbk.srcId tsbk.sysId = P25_RSP_ACCEPT))

/-- **Every call has one of the three effects.** -/
theorem exec_effect (hlla : c.requireLLAForReg = true) (S : Session) (op : Op) :
    Effect (c := c) S op (exec c S op) := by
  cases op with
  | rf tsbk rnd rnd' permitted =>
      cases hcontrol : c.enableControl with
      | false =>
          have hexec : exec c S (.rf tsbk rnd rnd' permitted) = S := by
            unfold exec ControlSignaling.exec process
            simp [hcontrol]
          rw [hexec]
          exact .quiet (fun _ _ _ _ _ h => absurd (hcontrol.symm.trans h) Bool.false_ne_true) rfl rfl rfl fun _ h => h
      | true =>
          unfold exec
          dsimp only
          rw [if_neg (by rw [hcontrol]; exact Bool.false_ne_true)]
          by_cases hreg : tsbk.lco = TSBK_IOSP_U_REG
          · rw [if_pos hreg]
            obtain ⟨hdemands, hnobody⟩ := process_uReg S.site hcontrol hlla hreg rnd rnd' permitted
            exact .demand tsbk rnd rnd' permitted rfl hreg hdemands rfl rfl hnobody
          · rw [if_neg hreg]
            by_cases hauth : tsbk.lco = TSBK_ISP_AUTH_RESP
            · rw [if_pos hauth]
              obtain ⟨hdemands, hwho⟩ := process_authResp S.site hcontrol hauth rnd rnd' permitted
              refine .response tsbk rnd rnd' permitted rfl hcontrol hauth hdemands rfl rfl fun u => (hwho u).trans ?_
              exact or_congr_right (and_congr_right fun _ => and_congr_left' (authFailed_eq_false_iff c S.site tsbk))
            · rw [if_neg hauth]
              have hquiet := calm_process c S.site rnd rnd' permitted hreg hauth
              refine .quiet ?_ hquiet.demands rfl rfl hquiet.registered
              rintro _ _ _ _ ⟨⟩ -
              exact hauth
  | net | grant | grantUpdate | callTerm | releaseGrant | touchGrant | clock | traffic | lookups =>
      refine .quiet (fun _ _ _ _ h => Op.noConfusion h) ?_ rfl rfl ?_
      · exact (calm_exec c S.site fun _ _ _ _ h => by cases h).demands
      · exact (calm_exec c S.site fun _ _ _ _ h => by cases h).registered

/-- **Every call keeps the demands.** -/
theorem Kept.exec {S : Session} (h : Kept c S) (hlla : c.requireLLAForReg = true) (op : Op) :
    Kept c (exec c S op) := by
  cases exec_effect hlla S op with
  | quiet _ hdemands hunused hpending _ => exact h.of_demands hdemands hunused hpending
  | demand tsbk rnd rnd' permitted _ _ hdemands hunused hpending _ => exact h.demand hdemands hunused hpending
  | response tsbk rnd rnd' permitted _ _ _ hdemands hunused hpending _ =>
      exact h.response tsbk hdemands hunused hpending

theorem Kept.step {S S' : Session} (h : Kept c S) (hlla : c.requireLLAForReg = true) {op : Op}
    (hstep : step c S op S') : Kept c S' := by
  obtain ⟨affiliations, -, rfl⟩ := hstep
  exact (h.of_affiliations affiliations).exec hlla op

/-- **One call.** While the demands are kept, a step is authentic exactly when it meets the condition. -/
theorem authentic_iff_meets {S : Session} (h : Kept c S) (hlla : c.requireLLAForReg = true) (op : Op) :
    Authentic c S op ↔ Meets c S op := by
  constructor
  · intro hauthentic tsbk rnd rnd' permitted hop hcontrol hlco hfree haccept hanswer
    subst hop
    have hstep : step c S (.rf tsbk rnd rnd' permitted) (exec c S (.rf tsbk rnd rnd' permitted)) :=
      ⟨S.site.affiliations, .refl _, rfl⟩
    have hnew := ((process_authResp S.site hcontrol hlco rnd rnd' permitted).2 tsbk.srcId).mpr
      (.inr ⟨rfl, (authFailed_eq_false_iff c S.site tsbk).mpr hanswer, haccept⟩)
    obtain ⟨_, _, _, _, heq, -, -, RC, hRC, hres⟩ :=
      hauthentic _ hstep tsbk.srcId ((exec_site c S _).symm ▸ hnew) hfree
    cases heq
    by_contra hclosed
    -- the demand that was answered has the answer of the stored one, and so the stored one is open
    exact h.closed _ (Bool.eq_false_iff.mpr hclosed) RC hRC (hres.symm.trans hanswer)
  · rintro hmeets S' ⟨affiliations, hsame, rfl⟩ u hu hfree
    have hfree' : ({ S.site with affiliations } : ControlSignaling).affiliations.isUnitReg u = false := by
      rw [← hfree]
      unfold AffiliationLookup.isUnitReg
      rw [hsame.unitRegTable]
    cases exec_effect hlla { S with site := { S.site with affiliations } } op with
    | quiet _ _ _ _ hnobody => exact absurd ((hnobody u hu).symm.trans hfree') (by decide)
    | demand _ _ _ _ _ _ _ _ _ hnobody => exact absurd ((hnobody u hu).symm.trans hfree') (by decide)
    | response tsbk rnd rnd' permitted hop hcontrol hlco _ _ _ hwho =>
        rcases (hwho u).mp hu with hold | ⟨rfl, hanswer, haccept⟩
        · exact absurd (hold.symm.trans hfree') (by decide)
        · exact ⟨tsbk, rnd, rnd', permitted, hop, hlco, rfl, _,
            h.opened _ (hmeets tsbk rnd rnd' permitted hop hcontrol hlco hfree haccept hanswer), hanswer⟩

/-- **Every registration of a run is authentic exactly when every response that counts meets an open demand.** -/
theorem authenticated_iff (hlla : c.requireLLAForReg = true) (acl : AccessControl) (affiliations : AffiliationLookup)
    {l : List (Op × Session)} (hrun : Run (step c) (start acl affiliations) l) :
    Guarded (Authentic c) (start acl affiliations) l ↔ Guarded (Meets c) (start acl affiliations) l :=
  hrun.guarded_congr (fun h hstep => h.step hlla hstep) (fun h op => authentic_iff_meets h hlla op)
    (kept_start acl affiliations)

/-- A site that requires authentication. -/
def authenticatingSite : Settings := { trunkingSite with requireLLAForReg := true }

/-- The registration request of a unit. -/
def requestOf (srcId : UInt32) : TSBKObject := { TSBKClass.IOSP_U_REG.new with srcId }

/-- The response of a unit. -/
def responseOf (srcId : UInt32) (authRes : List UInt8) : TSBKObject :=
  { TSBKClass.ISP_AUTH_RESP.new with srcId, authRes }

theorem run_trace_start (c : Settings) (acl : AccessControl) (affiliations : AffiliationLookup) (ops : List Op) :
    Run (step c) (start acl affiliations) (trace (exec c) (start acl affiliations) ops) :=
  run_trace (fun S _ => ⟨S.site.affiliations, .refl _, rfl⟩) ops _

/-- A unit that asks, and answers what it is asked. -/
theorem authenticated_request :
    Guarded (Authentic authenticatingSite) (start openAccess .new)
      (trace (exec authenticatingSite) (start openAccess .new)
        [.rf (requestOf 7) 0xA1B2C3D4 0xE5 true, .rf (responseOf 7 [0xA1, 0xB2, 0xC3, 0xD4]) 0 0 true]) := by
  refine (authenticated_iff rfl openAccess .new (run_trace_start _ _ _ _)).mpr ⟨?_, ?_, trivial⟩
  · rintro _ _ _ _ ⟨⟩ - hlco
    exact absurd hlco (by decide)
  · rintro _ _ _ _ ⟨⟩ - - - - -
    rfl

/-- **A response that nobody asked for registers a unit**: the number of a unit that was never challenged is `0`. -/
theorem unsolicited_not_authentic :
    ¬ Guarded (Authentic authenticatingSite) (start openAccess .new)
      (trace (exec authenticatingSite) (start openAccess .new) [.rf (responseOf 7 [0, 0, 0, 0]) 0 0 true]) := by
  rintro ⟨hauthentic, -⟩
  have hmeets := (authentic_iff_meets (kept_start openAccess .new) rfl _).mp hauthentic
  exact Bool.false_ne_true (hmeets _ _ _ _ rfl rfl rfl rfl rfl rfl)

end Session

end ControlSignaling

end P25

end DvmHost
