import OddBox.Configuration.Ports

/-!
What the search of `set_active_port` finds: the counter goes through the ports from the start
of the range on, one in each round, and has nothing behind 65535 to go to.
-/

namespace OddBox.Configuration

section

variable {oracle : PortOracle} {unavailable : List UInt16}

/-! ## Rounds -/

/-- The answer that the search waits for in a round. -/
def usable (oracle : PortOracle) (unavailable : List UInt16) (round : Nat) (port : UInt16) :
    Bool :=
  !unavailable.contains port && oracle.portIsFree round port

theorem usable_iff {round : Nat} {port : UInt16} :
    usable oracle unavailable round port = true ↔
      port ∉ unavailable ∧ oracle.portIsFree round port = true := by
  unfold usable
  rw [Bool.and_eq_true, Bool.not_eq_true', ← Bool.not_eq_true, List.contains_iff_mem]

theorem searchPort_usable {round fuel : Nat} {port : UInt16}
    (h : usable oracle unavailable round port = true) :
    searchPort oracle unavailable (fuel + 1) round port = .ok port := by
  unfold usable at h
  rw [searchPort, if_pos h]

/-- A port that is not usable is passed over, as long as there is a next one. -/
theorem searchPort_next {round fuel : Nat} {port : UInt16}
    (h : usable oracle unavailable round port = false) (hport : port.toNat < 65535) :
    searchPort oracle unavailable (fuel + 1) round port =
      searchPort oracle unavailable fuel (round + 1) (port + 1) := by
  have hlast : (port == 65535) = false := by
    rw [beq_eq_false_iff_ne]
    rintro rfl
    exact absurd hport (by decide)
  unfold usable at h
  rw [searchPort, h, hlast, Bool.and_false, if_neg Bool.false_ne_true, if_neg Bool.false_ne_true]

theorem toNat_add_one {port : UInt16} (hport : port.toNat < 65535) :
    (port + 1).toNat = port.toNat + 1 := by
  rw [UInt16.toNat_add]
  exact Nat.mod_eq_of_lt (Nat.succ_lt_succ hport)

/-! ## The search -/

/-- A port from the start of the range on that is not in the list, and free when the search
comes to it. -/
def Available (oracle : PortOracle) (unavailable : List UInt16) (start port : UInt16) : Prop :=
  start ≤ port ∧ port ∉ unavailable ∧
    oracle.portIsFree (port.toNat - start.toNat) port = true

/-- The search ends before its counter is at the end of the range, with the first available
port, or with an error if there is none. -/
def SearchSucceeds (oracle : PortOracle) (unavailable : List UInt16) (start : UInt16) : Prop :=
  ∃ rounds ≤ 65536 - start.toNat,
    match searchPort oracle unavailable rounds 0 start with
    | .ok port => IsLeast {port | Available oracle unavailable start port} port
    | .bail _ => ∀ port, ¬Available oracle unavailable start port
    | .panicked => False
    | .searching => False

/-- The search has no error to end with. -/
theorem searchPort_ne_bail {fuel : Nat} {message : String} :
    ∀ {round : Nat} {port : UInt16},
      searchPort oracle unavailable fuel round port ≠ .bail message := by
  induction fuel with
  | zero =>
    intro round port h
    cases h
  | succ fuel ih =>
    intro round port h
    rw [searchPort] at h
    split_ifs at h
    exact ih h

/-- Up to the first usable port the search goes from port to port. -/
theorem searchPort_first {distance : Nat} :
    ∀ {round : Nat} {port : UInt16} {found : UInt16}, found.toNat = port.toNat + distance →
      (∀ skipped : UInt16, port ≤ skipped → skipped < found →
        usable oracle unavailable (round + (skipped.toNat - port.toNat)) skipped = false) →
      usable oracle unavailable (round + distance) found = true →
      searchPort oracle unavailable (distance + 1) round port = .ok found := by
  induction distance with
  | zero =>
    intro round port found hfound _ husable
    have hsame : found = port := UInt16.toNat_inj.mp hfound
    subst hsame
    exact searchPort_usable husable
  | succ distance ih =>
    intro round port found hfound hskipped husable
    have hbound : found.toNat < 65536 := found.toNat_lt
    have hport : port.toNat < 65535 := by omega
    have hnext := toNat_add_one hport
    have hunusable : usable oracle unavailable round port = false := by
      have h := hskipped port (UInt16.le_refl port) (UInt16.lt_iff_toNat_lt.mpr (by omega))
      rwa [Nat.sub_self, Nat.add_zero] at h
    rw [searchPort_next hunusable hport]
    apply ih
    · omega
    · intro skipped hlow hhigh
      have hlow' := UInt16.le_iff_toNat_le.mp hlow
      have h := hskipped skipped (UInt16.le_iff_toNat_le.mpr (by omega)) hhigh
      have hround : round + 1 + (skipped.toNat - (port + 1).toNat) =
          round + (skipped.toNat - port.toNat) := by omega
      rw [hround]
      exact h
    · rwa [Nat.add_assoc, Nat.add_comm 1]

end

/-- **Port search**: it ends before its counter overflows and with the right answer exactly
where a port is available. Where none is left, nothing tells it to end. -/
theorem search_succeeds_iff (oracle : PortOracle) (unavailable : List UInt16) (start : UInt16) :
    SearchSucceeds oracle unavailable start ↔
      ∃ port, Available oracle unavailable start port := by
  constructor
  · rintro ⟨rounds, -, hresult⟩
    split at hresult
    · next port _ => exact ⟨port, hresult.1⟩
    · next message hbail => exact absurd hbail searchPort_ne_bail
    · contradiction
    · contradiction
  · rintro ⟨port, havailable⟩
    obtain ⟨least, hleast, hbelow⟩ : ∃ least, Available oracle unavailable start least ∧
        ∀ port, Available oracle unavailable start port → least ≤ port := by
      have hexists : ∃ n, ∃ port : UInt16, port.toNat = n ∧
          Available oracle unavailable start port := ⟨_, port, rfl, havailable⟩
      classical
      obtain ⟨least, hnat, hleast⟩ := Nat.find_spec hexists
      refine ⟨least, hleast, ?_⟩
      intro other hother
      rw [UInt16.le_iff_toNat_le, hnat]
      exact Nat.find_min' hexists ⟨other, rfl, hother⟩
    have hstart := UInt16.le_iff_toNat_le.mp hleast.1
    have hbound : least.toNat < 65536 := least.toNat_lt
    have hfound : searchPort oracle unavailable (least.toNat - start.toNat + 1) 0 start =
        .ok least := by
      apply searchPort_first
      · omega
      · intro skipped hlow hhigh
        rw [Bool.eq_false_iff]
        intro husable
        rw [Nat.zero_add] at husable
        have hearlier := hbelow skipped ⟨hlow, usable_iff.mp husable⟩
        exact absurd hhigh (UInt16.not_lt.mpr hearlier)
      · rw [Nat.zero_add]
        exact usable_iff.mpr hleast.2
    refine ⟨least.toNat - start.toNat + 1, by omega, ?_⟩
    rw [hfound]
    exact ⟨hleast, fun other hother => hbelow other hother⟩

/-- A process that has no port and for which none is selected gets what the search finds. -/
theorem setActivePort_searches {self : OddBoxV3Config} {proc : FullyResolvedInProcessSiteConfig}
    {oracle : PortOracle} (hkeeps : ¬self.KeepsPort proc oracle)
    (hselected : self.selectedPort proc oracle = none) (fuel : Nat) :
    (self.setActivePort proc oracle fuel).1 = searchPort oracle
      ((self.unavailablePorts proc.procId).map (·.2)) fuel 0 self.portRangeStart := by
  rcases setActivePort_eq self proc oracle fuel with ⟨current, -, hkept⟩ | ⟨-, heq⟩
  · exact absurd ⟨current, hkept⟩ hkeeps
  · rw [heq, hselected]
    unfold OddBoxV3Config.finishActivePort
    dsimp only
    split
    · next port hfound => exact hfound.symm
    · rfl

/-! ## The end of the range -/

/-- The range starts with its last port, which the other site is active on. -/
def lastPort : OddBoxV3Config :=
  { twoSites with
    portRangeStart := 65535
    hostedProcess := some [plainSite "a" (some 65535), plainSite "b" none] }

def everyPortFree (overflowChecks : Bool) : PortOracle :=
  ⟨true, fun _ _ => true, none, overflowChecks⟩

/-- No port is left for the second site. With overflow checks the search panics; without them
it goes on with port 0, which is below the range. -/
theorem lastPort_taken :
    (lastPort.unavailablePorts ⟨"b"⟩).map (·.2) = [65535] ∧
      (∀ fuel, (lastPort.setActivePort ⟨⟨"b"⟩, none, "b", none, none⟩ (everyPortFree true)
        (fuel + 1)).1 = .panicked) ∧
      (lastPort.setActivePort ⟨⟨"b"⟩, none, "b", none, none⟩ (everyPortFree false) 2).1 = .ok 0 ∧
      ∀ overflowChecks, ¬SearchSucceeds (everyPortFree overflowChecks) [65535] 65535 := by
  refine ⟨by decide, fun fuel => rfl, by decide, ?_⟩
  intro overflowChecks
  rintro ⟨rounds, hrounds, hresult⟩
  have hone : rounds ≤ 1 := hrounds
  interval_cases rounds
  · contradiction
  · cases overflowChecks with
    | true => contradiction
    | false => contradiction

end OddBox.Configuration
