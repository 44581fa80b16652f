import DvmHost.Fne.Network.Correctness.PeerEntries
import DvmHost.Lib.Run

/-!
# `Fne.Network.Correctness.LoginProtocol` — how a peer gets connected, and what a rejection leaves

A peer is entered by its login, authenticated by the hash of the password under the salt of that login, connected by
its configuration: the three rungs of a ladder (`step_ladder`), with the salt for the token. What a step does to the
login of a peer is `step_login`.

A rejected message is to erase the entry. The trailing `m_peers[peerId] = connection` of `NET_FUNC_RPTK` enters a
peer again whose hash is wrong, in the state and with the salt it had: it can try the next hash.
-/

namespace DvmHost

open Lib

variable {Object : Type}

/-- The part of a connection that the login protocol is about: salt, `connected()` and state. -/
def FNEPeerConnection.login (c : FNEPeerConnection Object) : UInt32 × Bool × NetConnStatus :=
  (c.salt, c.connected, c.connectionState)

namespace FNENetwork

/-- The login of a peer, `none` when the peer is not entered. -/
def loginOf (p : UInt32) (n : FNENetwork Object) : Option (UInt32 × Bool × NetConnStatus) :=
  (n.m_peers.lookup p).map FNEPeerConnection.login

/-! ## The events of the protocol -/

/-- The event is the receipt of a message of function `func` of the peer `p`. -/
def Event.Brings (e : Event) (p : UInt32) (func : UInt8) (pkt : Packet) (draws : Draws) : Prop :=
  ∃ tables, e = .receive tables pkt draws ∧ pkt.fneHeader.peerId = p ∧ pkt.fneHeader.func = func

/-- A login of `p` for which the salt was drawn. -/
def IsLogin (p salt : UInt32) (e : Event) : Prop :=
  0 < p ∧ ∃ pkt draws, e.Brings p NET_FUNC_RPTL pkt draws ∧ draws.salt = salt

/-- The message has the 32 octets of the hash of the salt and the password, from the ninth octet on. -/
def HasDigest (cfg : FNESettings Object) (salt : UInt32) (pkt : Packet) : Prop :=
  pkt.message.drop 8 = (List.range 32).map (cfg.sha256 (octets32 salt ++ cfg.m_password))

/-- An authentication of `p` with the hash that belongs to the salt. -/
def IsAuth (cfg : FNESettings Object) (p salt : UInt32) (e : Event) : Prop :=
  ∃ pkt draws, e.Brings p NET_FUNC_RPTK pkt draws ∧ HasDigest cfg salt pkt

/-- A configuration of `p` that parses as a JSON object. -/
def IsConfig (cfg : FNESettings Object) (p : UInt32) (e : Event) : Prop :=
  ∃ pkt draws, e.Brings p NET_FUNC_RPTC pkt draws ∧
    ∃ object, cfg.parse (pkt.message.drop 8) = some (some object)

theorem hashValid_iff (cfg : FNESettings Object) (pkt : Packet) (salt : UInt32) :
    hashValid cfg pkt.message salt = true ↔ HasDigest cfg salt pkt := by
  have hdrop : (pkt.message.drop 8).length = pkt.message.length - 8 := List.length_drop
  unfold hashValid HasDigest expectedHash
  dsimp only
  by_cases hlen : pkt.message.length - 8 = 32
  · rw [if_pos hlen, List.all_eq_true]
    constructor
    · intro h
      apply List.ext_getElem (by simp [hdrop, hlen])
      intro i hi _
      have hbyte := h i (List.mem_range.mpr (by omega))
      rw [List.getD_eq_getElem _ _ hi] at hbyte
      simpa using hbyte
    · intro h i hi
      have hlt := List.mem_range.mp hi
      rw [h]
      simp [List.getD_eq_getElem?_getD, hlt]
  · rw [if_neg hlen]
    refine iff_of_false (by simp) fun h => hlen ?_
    rw [← hdrop, h]
    simp

/-! ## One step -/

section Receive

variable {cfg : FNESettings Object} {tables : FNETables} {n n' : FNENetwork Object} {pkt : Packet} {draws : Draws}

theorem login_tracked (c : FNEPeerConnection Object) (pkt : Packet) : (tracked c pkt).login = c.login := by
  unfold tracked FNEPeerConnection.track
  split
  · split
    · rfl
    · rfl
  · rfl

theorem receive_auth (hfunc : pkt.fneHeader.func = NET_FUNC_RPTK) :
    n.receive cfg tables pkt draws = (n.trackSequence pkt).repeaterAuth cfg pkt draws := by
  unfold receive dispatch
  rw [hfunc]
  simp only [show ¬ NET_FUNC_RPTK = NET_FUNC_PROTOCOL by decide, show ¬ NET_FUNC_RPTK = NET_FUNC_RPTL by decide,
    and_false, if_false, if_true]

theorem receive_config (hfunc : pkt.fneHeader.func = NET_FUNC_RPTC) :
    n.receive cfg tables pkt draws = (n.trackSequence pkt).repeaterConfig cfg tables pkt draws := by
  unfold receive dispatch
  rw [hfunc]
  simp only [show ¬ NET_FUNC_RPTC = NET_FUNC_PROTOCOL by decide, show ¬ NET_FUNC_RPTC = NET_FUNC_RPTL by decide,
    show ¬ NET_FUNC_RPTC = NET_FUNC_RPTK by decide, and_false, if_false, if_true]

/-- The login of an entered peer after a message of it. -/
theorem receive_login_own {c : FNEPeerConnection Object} (hp : 0 < pkt.fneHeader.peerId)
    (hc : n.m_peers.lookup pkt.fneHeader.peerId = some c) (h : n.receive cfg tables pkt draws = some n') :
    loginOf pkt.fneHeader.peerId n' = none ∨ loginOf pkt.fneHeader.peerId n' = some c.login ∨
    (pkt.fneHeader.func = NET_FUNC_RPTK ∧ HasDigest cfg c.salt pkt ∧
      c.connectionState = .waitingAuthorisation ∧
      loginOf pkt.fneHeader.peerId n' = some (c.salt, c.connected, .waitingConfig)) ∨
    (pkt.fneHeader.func = NET_FUNC_RPTC ∧ (∃ object, cfg.parse (pkt.message.drop 8) = some (some object)) ∧
      c.connectionState = .waitingConfig ∧ loginOf pkt.fneHeader.peerId n' = some (c.salt, true, .running)) := by
  have hc' := lookup_trackSequence_own hp hc
  have hlogin := login_tracked c pkt
  obtain ⟨hsalt, hrest⟩ := Prod.mk.inj hlogin
  obtain ⟨hconnected, hstate⟩ := Prod.mk.inj hrest
  unfold receive at h
  dsimp only at h
  generalize n.trackSequence pkt = m at h hc'
  unfold loginOf
  rw [← hlogin]
  split at h
  · right
    left
    rw [← Option.some.inj h, hc', Option.map_some]
  unfold dispatch at h
  dsimp only at h
  split at h
  · right
    left
    rw [← Option.some.inj h, peers_protocol, hc', Option.map_some]
  split at h
  · -- a login: an entry that is not running goes
    rw [← Option.some.inj h, repeaterLogin_own hp hc']
    split
    · exact Or.inr (Or.inl rfl)
    · exact Or.inl rfl
  split at h
  · next hfunc =>
    rw [repeaterAuth_own hp hc' h]
    unfold afterAuth
    split
    · next hwaiting =>
      split
      · next hvalid =>
        right
        right
        left
        rw [hashValid_iff, hsalt] at hvalid
        refine ⟨hfunc, hvalid, hstate ▸ hwaiting, ?_⟩
        rw [← hsalt, ← hconnected]
        rfl
      · exact Or.inr (Or.inl rfl)
    · exact Or.inl rfl
  split at h
  · next hfunc =>
    rcases repeaterConfig_own hp hc' h with ⟨hgone, -⟩ | ⟨object, k, hwaiting, hobject, hentry⟩
    · rw [hgone]
      exact Or.inl rfl
    · right
      right
      right
      refine ⟨hfunc, ⟨object, hobject⟩, hstate ▸ hwaiting, ?_⟩
      rw [hentry, ← hsalt]
      rfl
  split at h
  · rw [← Option.some.inj h, repeaterClosing_own hp hc']
    split
    · exact Or.inl rfl
    · exact Or.inr (Or.inl rfl)
  split at h
  · right
    left
    rw [ping_own hp hc' h]
    split
    · rfl
    · rfl
  split at h
  · right
    left
    rw [← Option.some.inj h, grantRequest_own hp hc']
    split
    · rfl
    · rfl
  split at h
  · right
    left
    rw [transfer_own hp hc' h]
    split
    · rfl
    · rfl
  · right
    left
    rw [← Option.some.inj h, hc', Option.map_some]

end Receive

section Step

variable {cfg : FNESettings Object} {n n' : FNENetwork Object} {e : Event}

theorem map_login_addSeq (o : Option (FNEPeerConnection Object)) (k : UInt16) :
    (o.map (FNEPeerConnection.addSeq k)).map FNEPeerConnection.login = o.map FNEPeerConnection.login := by
  cases o with
  | none => rfl
  | some c => rfl

/-- **What a step does to the login of a peer**: it goes, it stays, or it comes one step further, by the event of
    that step. -/
theorem step_login (h : Step cfg n e n') (p : UInt32) :
    loginOf p n' = none ∨ loginOf p n' = loginOf p n ∨
    (∃ salt, loginOf p n = none ∧ IsLogin p salt e ∧
      loginOf p n' = some (salt, false, .waitingAuthorisation)) ∨
    (∃ salt b, loginOf p n = some (salt, b, .waitingAuthorisation) ∧ IsAuth cfg p salt e ∧
      loginOf p n' = some (salt, b, .waitingConfig)) ∨
    ∃ salt b, loginOf p n = some (salt, b, .waitingConfig) ∧ IsConfig cfg p e ∧
      loginOf p n' = some (salt, true, .running) := by
  cases e with
  | forceListUpdate =>
      right
      left
      rw [← Option.some.inj h]
      rfl
  | maintain tables ms now =>
      rcases goneOrWritten_maintain h p with hgone | ⟨k, hk⟩
      · left
        unfold loginOf
        rw [hgone, Option.map_none]
      · right
        left
        unfold loginOf
        rw [hk, map_login_addSeq]
  | receive tables pkt draws =>
      have hrec : n.receive cfg tables pkt draws = some n' := h
      by_cases hq : p = pkt.fneHeader.peerId
      swap
      · right
        left
        unfold loginOf
        rw [receive_others hq hrec]
      subst hq
      have hbrings : ∀ func, pkt.fneHeader.func = func →
          (Event.receive tables pkt draws).Brings pkt.fneHeader.peerId func pkt draws :=
        fun func hfunc => ⟨tables, rfl, rfl, hfunc⟩
      cases hf : n.findPeer pkt.fneHeader.peerId with
      | none =>
          rcases receive_notFound hf hrec with ⟨hfunc, hp, hnew⟩ | hsame
          · right
            right
            left
            rw [findPeer_of_pos hp] at hf
            refine ⟨draws.salt, ?_, ⟨hp, pkt, draws, hbrings _ hfunc, rfl⟩, ?_⟩
            · unfold loginOf
              rw [hf, Option.map_none]
            · unfold loginOf
              rw [hnew]
              rfl
          · right
            left
            unfold loginOf
            rw [hsame]
      | some c =>
          have hp : 0 < pkt.fneHeader.peerId := by
            by_contra hp
            rw [findPeer, if_neg hp] at hf
            exact absurd hf (by simp)
          have hc : n.m_peers.lookup pkt.fneHeader.peerId = some c := findPeer_of_pos hp ▸ hf
          have hbefore : loginOf pkt.fneHeader.peerId n = some c.login := by
            unfold loginOf
            rw [hc, Option.map_some]
          rcases receive_login_own hp hc hrec with hgone | hkept | ⟨hfunc, hdigest, hstate, hafter⟩ |
            ⟨hfunc, hobject, hstate, hafter⟩
          · exact Or.inl hgone
          · exact Or.inr (Or.inl (hkept.trans hbefore.symm))
          · right
            right
            right
            left
            exact ⟨c.salt, c.connected, hstate ▸ hbefore, ⟨pkt, draws, hbrings _ hfunc, hdigest⟩, hafter⟩
          · right
            right
            right
            right
            exact ⟨c.salt, c.connected, hstate ▸ hbefore, ⟨pkt, draws, hbrings _ hfunc, hobject⟩, hafter⟩

end Step

/-! ## Runs -/

/-- The rung that a login stands on. -/
def rungOf : UInt32 × Bool × NetConnStatus → UInt32 × Nat
  | (salt, _, .waitingAuthorisation) => (salt, 0)
  | (salt, _, .waitingConfig) => (salt, 1)
  | (salt, _, .running) => (salt, 2)
  | (salt, _, _) => (salt, 3)

/-- Where a peer stands, with its salt. -/
def position (p : UInt32) (n : FNENetwork Object) : Option (UInt32 × Nat) := (loginOf p n).map rungOf

/-- The event of a rung. -/
def loginRung (cfg : FNESettings Object) (p : UInt32) : Nat → UInt32 → Event → Prop
  | 0, salt, e => IsLogin p salt e
  | 1, salt, e => IsAuth cfg p salt e
  | 2, _, e => IsConfig cfg p e
  | _, _, _ => False

/-- **The login is a ladder.** -/
theorem step_ladder (cfg : FNESettings Object) (p : UInt32) :
    Ladder (Step cfg) (position p) (loginRung cfg p) := by
  intro n e n' h
  unfold position
  rcases step_login h p with hgone | hkept | ⟨salt, hbefore, hevent, hafter⟩ | ⟨salt, b, hbefore, hevent, hafter⟩ |
    ⟨salt, b, hbefore, hevent, hafter⟩
  · left
    rw [hgone, Option.map_none]
  · right
    left
    rw [hkept]
  · right
    right
    left
    rw [hbefore, hafter]
    exact ⟨salt, rfl, rfl, hevent⟩
  · right
    right
    right
    rw [hbefore, hafter]
    exact ⟨salt, 0, rfl, rfl, hevent⟩
  · right
    right
    right
    rw [hbefore, hafter]
    exact ⟨salt, 1, rfl, rfl, hevent⟩

/-- What the entries of a network have in every state of a run: no entry is of the peer zero, and the connected
    peers are the running ones. -/
structure Sound (n : FNENetwork Object) : Prop where
  pos : ∀ p login, loginOf p n = some login → 0 < p
  connected_iff : ∀ p login, loginOf p n = some login → (login.2.1 = true ↔ login.2.2 = .running)

theorem sound_opened (pingTime updateLookupTime : UInt32) :
    Sound (opened pingTime updateLookupTime : FNENetwork Object) :=
  ⟨fun p login h => absurd h (by simp [loginOf, opened]), fun p login h => absurd h (by simp [loginOf, opened])⟩

theorem Sound.step {cfg : FNESettings Object} {n n' : FNENetwork Object} {e : Event} (hn : Sound n)
    (h : Step cfg n e n') : Sound n' := by
  have hboth : ∀ p login, loginOf p n' = some login →
      0 < p ∧ (login.2.1 = true ↔ login.2.2 = .running) := by
    intro p login hlogin
    rcases step_login h p with hgone | hkept | ⟨salt, -, hevent, hafter⟩ | ⟨salt, b, hbefore, -, hafter⟩ |
      ⟨salt, b, hbefore, -, hafter⟩
    · exact absurd (hlogin.symm.trans hgone) (by simp)
    · rw [hkept] at hlogin
      exact ⟨hn.pos p login hlogin, hn.connected_iff p login hlogin⟩
    · rw [← Option.some.inj (hafter.symm.trans hlogin)]
      exact ⟨hevent.1, by simp⟩
    · rw [← Option.some.inj (hafter.symm.trans hlogin)]
      refine ⟨hn.pos p _ hbefore, ?_⟩
      have hb := hn.connected_iff p _ hbefore
      simpa using hb
    · rw [← Option.some.inj (hafter.symm.trans hlogin)]
      exact ⟨hn.pos p _ hbefore, by simp⟩
  exact ⟨fun p login h => (hboth p login h).1, fun p login h => (hboth p login h).2⟩

/-- The message is to be rejected: a hash that is wrong or comes in the wrong state, or a configuration in the wrong
    state. -/
def Rejected (cfg : FNESettings Object) (p : UInt32) (n : FNENetwork Object) (e : Event) : Prop :=
  (∃ pkt draws, e.Brings p NET_FUNC_RPTK pkt draws ∧ ¬ ∃ c, n.m_peers.lookup p = some c ∧
    c.connectionState = .waitingAuthorisation ∧ HasDigest cfg c.salt pkt) ∨
  ∃ pkt draws, e.Brings p NET_FUNC_RPTC pkt draws ∧ ¬ ∃ c, n.m_peers.lookup p = some c ∧
    c.connectionState = .waitingConfig

/-- A peer that waits for authorisation sends no hash but the right one. -/
def HashRight (cfg : FNESettings Object) (n : FNENetwork Object) (e : Event) : Prop :=
  ∀ p pkt draws c, e.Brings p NET_FUNC_RPTK pkt draws → n.m_peers.lookup p = some c →
    c.connectionState = .waitingAuthorisation → HasDigest cfg c.salt pkt

/-- **The login protocol** of a run: a peer is connected only when the run has entered it by a login, authenticated it
    by the hash of the salt of that login and then configured it, the entry being there all the time; and after a
    rejected message there is no entry, until the next login. -/
structure LoginProtocol (cfg : FNESettings Object) (s : FNENetwork Object)
    (l : List (Event × FNENetwork Object)) : Prop where
  connected : ∀ pre post, l = pre ++ post → ∀ p c, (endOf s pre).m_peers.lookup p = some c → c.connected = true →
    Climbed (position p) (loginRung cfg p) c.salt 2 pre
  rejected : ∀ pre e n mid post p, l = pre ++ (e, n) :: (mid ++ post) → Rejected cfg p (endOf s pre) e →
    (∀ x ∈ mid, ∀ salt, ¬ IsLogin p salt x.1) → (endOf n mid).m_peers.lookup p = none

/-! ## Rejection -/

theorem loginOf_eq_none_iff {p : UInt32} {n : FNENetwork Object} :
    loginOf p n = none ↔ n.m_peers.lookup p = none := Option.map_eq_none_iff

theorem position_eq_none_iff {p : UInt32} {n : FNENetwork Object} :
    position p n = none ↔ n.m_peers.lookup p = none := by
  unfold position
  rw [Option.map_eq_none_iff, loginOf_eq_none_iff]

section Rejection

variable {cfg : FNESettings Object} {n n' : FNENetwork Object} {e : Event} {p : UInt32}

theorem Sound.pos_of_lookup (hn : Sound n) {c : FNEPeerConnection Object} (hc : n.m_peers.lookup p = some c) :
    0 < p :=
  hn.pos p c.login (by rw [loginOf, hc, Option.map_some])

/-- A message of a peer that is not entered, and that is no login, does not enter it. -/
theorem lookup_of_absent (h : Step cfg n e n') {func : UInt8} (hfunc : func ≠ NET_FUNC_RPTL) {pkt : Packet}
    {draws : Draws} (he : e.Brings p func pkt draws) (hc : n.m_peers.lookup p = none) :
    n'.m_peers.lookup p = none := by
  obtain ⟨tables, rfl, rfl, rfl⟩ := he
  have hf : n.findPeer pkt.fneHeader.peerId = none := by
    unfold findPeer
    rw [hc, ite_self]
  rcases receive_notFound hf h with ⟨hlogin, -⟩ | hsame
  · exact absurd hlogin hfunc
  · rw [hsame, hc]

/-- A rejected hash erases the entry, unless it is a wrong one in the right state. -/
theorem auth_rejected (hn : Sound n) (h : Step cfg n e n') {pkt : Packet} {draws : Draws}
    (he : e.Brings p NET_FUNC_RPTK pkt draws) (hright : HashRight cfg n e)
    (hreject : ¬ ∃ c, n.m_peers.lookup p = some c ∧ c.connectionState = .waitingAuthorisation ∧
      HasDigest cfg c.salt pkt) : n'.m_peers.lookup p = none := by
  cases hc : n.m_peers.lookup p with
  | none => exact lookup_of_absent h (by decide) he hc
  | some c =>
      have hp := hn.pos_of_lookup hc
      have hstate : c.connectionState ≠ .waitingAuthorisation := fun hstate =>
        hreject ⟨c, hc, hstate, hright p pkt draws c he hc hstate⟩
      obtain ⟨tables, rfl, rfl, hfunc⟩ := he
      have hrec : n.receive cfg tables pkt draws = some n' := h
      rw [receive_auth hfunc] at hrec
      rw [repeaterAuth_own hp (lookup_trackSequence_own hp hc) hrec]
      have hsame := congrArg (fun login => login.2.2) (login_tracked c pkt)
      exact if_neg fun hwaiting => hstate (hsame.symm.trans hwaiting)

/-- A configuration in the wrong state erases the entry. -/
theorem config_rejected (hn : Sound n) (h : Step cfg n e n') {pkt : Packet} {draws : Draws}
    (he : e.Brings p NET_FUNC_RPTC pkt draws)
    (hreject : ¬ ∃ c, n.m_peers.lookup p = some c ∧ c.connectionState = .waitingConfig) :
    n'.m_peers.lookup p = none := by
  cases hc : n.m_peers.lookup p with
  | none => exact lookup_of_absent h (by decide) he hc
  | some c =>
      have hp := hn.pos_of_lookup hc
      obtain ⟨tables, rfl, rfl, hfunc⟩ := he
      have hrec : n.receive cfg tables pkt draws = some n' := h
      rw [receive_config hfunc] at hrec
      rcases repeaterConfig_own hp (lookup_trackSequence_own hp hc) hrec with ⟨hgone, -⟩ | ⟨-, -, hwaiting, -⟩
      · exact hgone
      · have hsame := congrArg (fun login => login.2.2) (login_tracked c pkt)
        exact absurd ⟨c, hc, hsame.symm.trans hwaiting⟩ hreject

/-- A wrong hash in the right state leaves the peer entered, as it was. -/
theorem auth_reentered (hn : Sound n) (h : Step cfg n e n') {pkt : Packet} {draws : Draws}
    (he : e.Brings p NET_FUNC_RPTK pkt draws) {c : FNEPeerConnection Object} (hc : n.m_peers.lookup p = some c)
    (hstate : c.connectionState = .waitingAuthorisation) (hwrong : ¬ HasDigest cfg c.salt pkt) :
    loginOf p n' = some c.login := by
  have hp := hn.pos_of_lookup hc
  obtain ⟨tables, rfl, rfl, hfunc⟩ := he
  have hrec : n.receive cfg tables pkt draws = some n' := h
  rw [receive_auth hfunc] at hrec
  have hlogin := login_tracked c pkt
  obtain ⟨hsalt, hrest⟩ := Prod.mk.inj hlogin
  unfold loginOf
  rw [repeaterAuth_own hp (lookup_trackSequence_own hp hc) hrec, ← hlogin]
  unfold afterAuth
  have hwaiting : (tracked c pkt).connectionState = .waitingAuthorisation :=
    (Prod.mk.inj hrest).2.trans hstate
  have hinvalid : ¬ hashValid cfg pkt.message (tracked c pkt).salt = true := by
    rw [hashValid_iff, hsalt]
    exact hwrong
  rw [if_pos hwaiting, if_neg hinvalid]
  rfl

end Rejection

/-! ## Main result -/

section Main

variable {cfg : FNESettings Object} {s : FNENetwork Object} {l : List (Event × FNENetwork Object)}

theorem Sound.endOf (hs : Sound s) (hrun : Run (Step cfg) s l) : Sound (Lib.endOf s l) :=
  (hrun.states_of_invariant (fun hn h => Sound.step hn h) hs).endOf

/-- A connected peer has climbed the ladder. -/
theorem connected_climbed (hrun : Run (Step cfg) s l) (hs : Sound s) (hempty : ∀ p, s.m_peers.lookup p = none)
    {p : UInt32} {c : FNEPeerConnection Object} (hc : (endOf s l).m_peers.lookup p = some c)
    (hconnected : c.connected = true) : Climbed (position p) (loginRung cfg p) c.salt 2 l := by
  have hsound : Sound (endOf s l) := hs.endOf hrun
  have hlogin : loginOf p (endOf s l) = some c.login := by rw [loginOf, hc, Option.map_some]
  have hrunning : c.connectionState = .running := (hsound.connected_iff p _ hlogin).mp hconnected
  refine climbed (step_ladder cfg p) hrun (position_eq_none_iff.mpr (hempty p)) ?_
  unfold position
  rw [hlogin, FNEPeerConnection.login, hrunning]
  rfl

/-- A rejected message erases the entry when no wrong hash is sent in the right state. -/
theorem rejected_erased {n n' : FNENetwork Object} {e : Event} {p : UInt32} (hn : Sound n) (h : Step cfg n e n')
    (hright : HashRight cfg n e) (hreject : Rejected cfg p n e) : n'.m_peers.lookup p = none := by
  rcases hreject with ⟨pkt, draws, he, hreject⟩ | ⟨pkt, draws, he, hreject⟩
  · exact auth_rejected hn h he hright hreject
  · exact config_rejected hn h he hreject

/-- Every hash of the run that is sent in the right state is right. -/
def HashesRight (cfg : FNESettings Object) (s : FNENetwork Object) (l : List (Event × FNENetwork Object)) : Prop :=
  ∀ pre e n post, l = pre ++ (e, n) :: post → HashRight cfg (endOf s pre) e

/-- **The login protocol holds in a run exactly when no wrong hash is sent in the right state**: such a hash is
    rejected with the peer entered again, and everything else holds in every run. -/
theorem loginProtocol_iff (cfg : FNESettings Object) (pingTime updateLookupTime : UInt32)
    {l : List (Event × FNENetwork Object)} (hrun : Run (Step cfg) (opened pingTime updateLookupTime) l) :
    LoginProtocol cfg (opened pingTime updateLookupTime) l ↔
      HashesRight cfg (opened pingTime updateLookupTime) l := by
  have hs : Sound (opened pingTime updateLookupTime : FNENetwork Object) := sound_opened pingTime updateLookupTime
  constructor
  · intro h pre e n post heq p pkt draws c he hc hstate
    by_contra hwrong
    -- the run up to the wrong hash, and its step
    obtain ⟨hpre, hstep, -⟩ : Run (Step cfg) (opened pingTime updateLookupTime) pre ∧
        Step cfg (endOf (opened pingTime updateLookupTime) pre) e n ∧ Run (Step cfg) n post := by
      rw [heq] at hrun
      obtain ⟨hpre, _ | ⟨hstep, hpost⟩⟩ := run_append_iff.mp hrun
      exact ⟨hpre, hstep, hpost⟩
    have hsound : Sound (endOf (opened pingTime updateLookupTime) pre) := hs.endOf hpre
    have hreject : Rejected cfg p (endOf (opened pingTime updateLookupTime) pre) e := by
      refine Or.inl ⟨pkt, draws, he, fun hvalid => hwrong ?_⟩
      obtain ⟨c', hc', -, hdigest⟩ := hvalid
      rw [Option.some.inj (hc.symm.trans hc')]
      exact hdigest
    have hgone := h.rejected pre e n [] post p heq hreject fun x hx => absurd hx List.not_mem_nil
    have hstill := auth_reentered hsound hstep he hc hstate hwrong
    rw [endOf_nil] at hgone
    rw [loginOf, hgone] at hstill
    exact absurd hstill (by simp)
  · intro hright
    refine ⟨?_, ?_⟩
    · intro pre post heq p c hc hconnected
      rw [heq] at hrun
      exact connected_climbed (run_append_iff.mp hrun).1 hs (fun _ => rfl) hc hconnected
    · intro pre e n mid post p heq hreject hclosed
      have hguard := hright pre e n (mid ++ post) heq
      rw [heq] at hrun
      obtain ⟨hpre, _ | ⟨hstep, hrest⟩⟩ := run_append_iff.mp hrun
      have hgone := rejected_erased (hs.endOf hpre) hstep hguard hreject
      refine position_eq_none_iff.mp (absent_of_unopened (step_ladder cfg p) (run_append_iff.mp hrest).1 ?_ ?_)
      · exact position_eq_none_iff.mpr hgone
      · intro x hx salt
        exact hclosed x hx salt

end Main

/-! ## A peer that logs in, and one that guesses -/

/-- SHA-256 of the salt 42 and the password `pw`. -/
def demoDigest : List UInt8 :=
  [0x77, 0xC1, 0xA1, 0x1F, 0xBE, 0xCD, 0x85, 0xA6, 0x04, 0x68, 0x16, 0xE2, 0xFC, 0x07, 0x98, 0x1C,
   0x4E, 0xB1, 0xB3, 0xF0, 0xB2, 0x59, 0x0E, 0x52, 0xB1, 0xEC, 0xEC, 0xE6, 0x21, 0xEB, 0x0F, 0x09]

/-- An FNE with the password `pw`. -/
def demoSettings : FNESettings Unit where
  m_password := [0x70, 0x77]
  sha256 := fun input => if input = [0x00, 0x00, 0x00, 0x2A, 0x70, 0x77] then FrameQueue.octets demoDigest
    else fun _ => 0x00
  parse := fun payload => if payload = [0x7B, 0x7D] then some (some ()) else none

/-- A message of the peer 9: eight octets, then the payload. -/
def demoEvent (func : UInt8) (payload : List UInt8) (address : String) : Event :=
  .receive { m_ridLookup := ⟨∅⟩, m_tidLookup := {}, m_peerNetworks := [] }
    { message := List.replicate 8 0x00 ++ payload, rtpHeader := {},
      fneHeader := { func, streamId := 1, peerId := 9 }, address := ⟨address, 62031⟩ }
    { now := 100, salt := 42, streamId := 7, heap := fun _ => 0x00 }

/-- The three messages of a login. -/
def demoLogin : List Event :=
  [demoEvent NET_FUNC_RPTL [] "10.0.0.1", demoEvent NET_FUNC_RPTK demoDigest "10.0.0.1",
   demoEvent NET_FUNC_RPTC [0x7B, 0x7D] "10.0.0.1"]

/-- The run of the login. -/
def demoRun : List (Event × FNENetwork Unit) :=
  (traceOption (fun n e => next demoSettings n e) (opened 5 10) demoLogin).getD []

theorem demoRun_run : Run (Step demoSettings) (opened 5 10) demoRun := by
  have hsome : (traceOption (fun n e => next demoSettings n e) (opened 5 10) demoLogin).isSome = true := by
    decide
  obtain ⟨l, hl⟩ := Option.isSome_iff_exists.mp hsome
  have hrun : demoRun = l := by
    unfold demoRun
    rw [hl, Option.getD_some]
  rw [hrun]
  exact run_traceOption hl

/-- The run of the login, at whose end the peer is connected. -/
theorem loginProtocol_iff_login :
    ((endOf (opened 5 10) demoRun).m_peers.lookup 9).map FNEPeerConnection.login = some (42, true, .running) ∧
      (LoginProtocol demoSettings (opened 5 10) demoRun ↔ HashesRight demoSettings (opened 5 10) demoRun) :=
  ⟨by decide, loginProtocol_iff demoSettings 5 10 demoRun_run⟩

/-- **A wrong hash is answered with another try**: after a login and a hash of 32 zeros the peer is still entered. -/
theorem guess_not_rejected :
    ¬ ∀ l, Run (Step demoSettings) (opened 5 10) l → LoginProtocol demoSettings (opened 5 10) l := by
  intro hall
  -- the two events and the states they leave
  have hfirst : ((opened 5 10).next demoSettings (demoEvent NET_FUNC_RPTL [] "10.0.0.1")).isSome = true := by
    decide
  obtain ⟨n, hn⟩ := Option.isSome_iff_exists.mp hfirst
  have hsecond : (((opened 5 10).next demoSettings (demoEvent NET_FUNC_RPTL [] "10.0.0.1")).bind fun n =>
      n.next demoSettings (demoEvent NET_FUNC_RPTK (List.replicate 32 0x00) "10.0.0.1")).isSome = true := by
    decide
  rw [hn, Option.bind_some] at hsecond
  obtain ⟨n', hn'⟩ := Option.isSome_iff_exists.mp hsecond
  have hstill : (((opened 5 10).next demoSettings (demoEvent NET_FUNC_RPTL [] "10.0.0.1")).bind fun n =>
      n.next demoSettings (demoEvent NET_FUNC_RPTK (List.replicate 32 0x00) "10.0.0.1")).map
        (fun n => (n.m_peers.lookup 9).isSome) = some true := by
    decide
  rw [hn, Option.bind_some, hn', Option.map_some] at hstill
  have hsalt : ((opened 5 10).next demoSettings (demoEvent NET_FUNC_RPTL [] "10.0.0.1")).map
      (fun n => (n.m_peers.lookup 9).map FNEPeerConnection.salt) = some (some 42) := by
    decide
  rw [hn, Option.map_some] at hsalt
  have hrun : Run (Step demoSettings) (opened 5 10) [(_, n), (_, n')] := .cons hn (.cons hn' .nil)
  have hgone := (hall _ hrun).rejected [(_, n)] _ n' [] [] 9 rfl ?_ fun x hx => absurd hx List.not_mem_nil
  · rw [endOf_nil] at hgone
    rw [hgone] at hstill
    exact absurd hstill (by decide)
  · left
    refine ⟨_, _, ⟨_, rfl, rfl, rfl⟩, ?_⟩
    rintro ⟨c, hc, -, hdigest⟩
    have hc42 : c.salt = 42 := by
      have hlookup : n.m_peers.lookup 9 = some c := hc
      rw [hlookup] at hsalt
      exact Option.some.inj (Option.some.inj hsalt)
    rw [hc42] at hdigest
    exact absurd hdigest (by unfold HasDigest; decide)

end FNENetwork

end DvmHost
