import FeedExplorer.Session.Loop
import FeedExplorer.Proofs.Config.Store

/-!
# Asking for an address

What a session without a feed does to the configuration and to the disk. Main statements: neither
changes before an address has been taken, and neither changes after that.
-/

namespace FeedExplorer.Session

open Source (Client)

/-- The configuration of a session, and whether an address is still asked for. -/
def standing (s : Session) : Config × Bool :=
  (s.config, s.needsSetup)

section Standing

variable (s : Session)

@[simp] theorem standing_tell (e : Feed.Event) : (s.tell e).standing = s.standing := by
  simp [standing, tell, needsSetup]

@[simp] theorem standing_say (text : String) : (s.say text).standing = s.standing := rfl

@[simp] theorem standing_clearStatus : s.clearStatus.standing = s.standing := rfl

@[simp] theorem standing_blockMinted (b : Option Chain.Block) :
    (s.blockMinted b).standing = s.standing := rfl

@[simp] theorem standing_goBack : s.goBack.standing = s.standing := rfl

@[simp] theorem standing_selectPrevious : s.selectPrevious.standing = s.standing := by
  unfold selectPrevious
  split <;> rfl

@[simp] theorem standing_selectNext : s.selectNext.standing = s.standing := by
  unfold selectNext
  split <;> split <;> rfl

@[simp] theorem standing_openSelected : s.openSelected.1.standing = s.standing := by
  unfold openSelected
  split <;> rfl

@[simp] theorem standing_syncSearch : s.syncSearch.standing = s.standing :=
  s.standing_tell _

@[simp] theorem standing_typeSearch (k : Key) : (s.typeSearch k).standing = s.standing := by
  unfold typeSearch
  split
  · exact standing_syncSearch _
  · rfl

@[simp] theorem standing_typeAddress (k : Key) : (s.typeAddress k).standing = s.standing := by
  unfold typeAddress
  split <;> rfl

@[simp] theorem standing_pressOnBlock (k : Key) : (s.pressOnBlock k).standing = s.standing := by
  unfold pressOnBlock
  split_ifs <;> simp

@[simp] theorem standing_receive (m : Message) : (receive s m).standing = s.standing := by
  cases m <;> simp [receive]

end Standing

/-- The session that has taken an address has a new feed, and its status line tells how keeping the
configuration went. -/
theorem session_of_submit {s s' : Session} {disk disk' : Disk} {home : Disk.Place}
    (h : s.submit disk home = .ok (s', disk')) :
    ∃ kept, (s.config.withRpcUrl (Text.trim s.address.text)).keep disk home = (kept, disk') ∧
      s' = Session.noteSave { s with
        config := s.config.withRpcUrl (Text.trim s.address.text), feed := some .initial
        url := some (Text.trim s.address.text), address := .empty } kept := by
  unfold submit at h
  dsimp only at h
  split at h
  · cases h
  split at h
  · cases h
  obtain ⟨rfl, rfl⟩ := Prod.mk.inj (Except.ok.inj h)
  exact ⟨_, rfl, rfl⟩

/-- An address is taken when a client can be made for it. It is kept with the configuration of the
session, and the status line tells whether that went well. -/
theorem submit_eq_ok {s s' : Session} {disk disk' : Disk} {home : Disk.Place}
    (h : s.submit disk home = .ok (s', disk')) :
    (∃ client, Client.connect (Text.trim s.address.text) s.config.protocol = .ok client) ∧
      s'.needsSetup = false ∧
      ∃ kept, (s.config.withRpcUrl (Text.trim s.address.text)).keep disk home = (kept, disk') ∧
        (s'.status = none → kept = .ok ()) := by
  unfold submit at h
  dsimp only at h
  split at h
  · cases h
  split at h
  · cases h
  next client hclient =>
    generalize hkeep : (s.config.withRpcUrl (Text.trim s.address.text)).keep disk home = kept at h
    obtain ⟨kept, after⟩ := kept
    obtain ⟨rfl, rfl⟩ := Prod.mk.inj (Except.ok.inj h)
    refine ⟨⟨client, hclient⟩, by cases kept <;> rfl, kept, rfl, ?_⟩
    intro hstatus
    cases kept with
    | ok _ => rfl
    | error t => cases hstatus

namespace Loop

/-- What a loop does its keeping with. -/
def standing (l : Loop) : (Config × Bool) × Disk × Disk.Place :=
  (l.session.standing, l.disk, l.home)

variable {l : Loop}

theorem needsSetup_eq {l' : Loop} (h : l'.standing = l.standing) :
    l'.session.needsSetup = l.session.needsSetup :=
  congrArg (fun t => t.1.2) h

/-- The enter key has taken the address in the line. -/
def Takes (l l' : Loop) : Prop :=
  ∃ s disk, l.session.submit l.disk l.home = .ok (s, disk) ∧
    l' = { l with session := s.tell .start, disk }

theorem pressOnSetup_cases (l : Loop) (k : Key) :
    (l.pressOnSetup k).standing = l.standing ∨ k = .enter ∧ l.Takes (l.pressOnSetup k) := by
  unfold pressOnSetup
  split
  · split
    · next s disk hsubmit => exact .inr ⟨rfl, s, disk, hsubmit, rfl⟩
    · exact .inl (by simp [standing, withSession])
  · exact .inl rfl
  · exact .inl (by simp [standing, withSession])

theorem standing_pressOnFeed (l : Loop) (m : Feed.Machine) (k : Key) :
    (l.pressOnFeed m k).standing = l.standing := by
  unfold pressOnFeed
  split <;> simp [standing, withSession]

theorem standing_answer (l : Loop) (id : Nat)
    (result : Except Chain.Failure Chain.Snapshot) :
    (l.answer id result).standing = l.standing := by
  unfold answer
  dsimp only
  split_ifs <;> simp [standing, withSession]

theorem standing_minted (l : Loop) (result : Except Chain.Failure Chain.Block) :
    (l.minted result).standing = l.standing := by
  unfold minted
  split_ifs <;> simp [standing]

theorem standing_handle (l : Loop) : l.handle.standing = l.standing := by
  have hfold : ∀ (inbox : List Message) (s : Session),
      (inbox.foldl receive s).standing = s.standing := by
    intro inbox
    induction inbox with
    | nil => exact fun s => rfl
    | cons m inbox ih => exact fun s => (ih _).trans (standing_receive s m)
  simp [standing, handle, hfold]

/-- A key leaves everything as it stands, or it takes an address. -/
theorem press_cases (l : Loop) (k : Key) :
    (l.press k).standing = l.standing ∨
      k = .enter ∧ l.session.needsSetup = true ∧ l.Takes (l.press k) := by
  generalize hquit :
    (if k.quits then l.withSession { l.session with quitting := true } else l) = l'
  have hstands : l'.standing = l.standing := by
    rw [← hquit]
    split_ifs <;> rfl
  rw [press]
  dsimp only
  rw [hquit]
  cases hfeed : l'.session.feed with
  | none =>
    rcases pressOnSetup_cases l' k with h | ⟨rfl, htakes⟩
    · exact .inl (h.trans hstands)
    · -- the enter key does not end the program
      obtain rfl : l = l' := hquit
      exact .inr ⟨rfl, by rw [needsSetup, hfeed]; rfl, htakes⟩
  | some m =>
    dsimp only
    split
    · exact .inl ((standing_pressOnFeed l' m k).trans hstands)
    · refine .inl (Eq.trans ?_ hstands)
      simp [standing, withSession]

theorem step_cases (l : Loop) (e : Event) :
    (l.step e).standing = l.standing ∨
      e = .press .enter ∧ l.session.needsSetup = true ∧ l.Takes (l.step e) := by
  cases e with
  | press k =>
    rw [step]
    split_ifs
    · exact .inl rfl
    · rcases press_cases l k with h | ⟨rfl, hsetup, htakes⟩
      · exact .inl h
      · exact .inr ⟨rfl, hsetup, htakes⟩
  | tick => exact .inl (by simp [step, standing, withSession])
  | «begin» id => exact .inl (by simp [step, standing, withSession])
  | answer id result => exact .inl (standing_answer l id result)
  | minted result => exact .inl (standing_minted l result)
  | handle =>
    rw [step]
    split_ifs
    · exact .inl rfl
    · exact .inl (standing_handle l)

theorem Takes.needsSetup_eq {l' : Loop} (h : l.Takes l') : l'.session.needsSetup = false := by
  obtain ⟨s, disk, hsubmit, rfl⟩ := h
  exact (congrArg Prod.snd (s.standing_tell .start)).trans (submit_eq_ok hsubmit).2.1

/-- Once there is a feed everything stays as it stands. -/
theorem standing_run_of_feed (h : l.session.needsSetup = false) (es : List Event) :
    (l.run es).standing = l.standing := by
  induction es generalizing l with
  | nil => rfl
  | cons e es ih =>
    rcases step_cases l e with hsame | ⟨-, hsetup, -⟩
    · exact (ih ((needsSetup_eq hsame).trans h)).trans hsame
    · rw [h] at hsetup
      cases hsetup

/-- An address is taken only if a client can be made for it. -/
theorem Takes.connect_eq_ok {l' : Loop} (h : l.Takes l') :
    ∃ client, Client.connect (Text.trim l.session.address.text) l.session.config.protocol =
      .ok client := by
  obtain ⟨s, disk, hsubmit, -⟩ := h
  exact (submit_eq_ok hsubmit).1

/-- An address that has been taken is kept from then on, unless the status line tells trouble. -/
theorem Takes.load_run {l' : Loop} (h : l.Takes l') (hstatus : l'.session.status = none)
    (es : List Event) :
    Config.load (l'.run es).disk l.home =
      .ok (l.session.config.withRpcUrl (Text.trim l.session.address.text)) := by
  have hdisk : (l'.run es).disk = l'.disk :=
    congrArg (fun t => t.2.1) (standing_run_of_feed h.needsSetup_eq es)
  rw [hdisk]
  obtain ⟨s, disk, hsubmit, rfl⟩ := h
  obtain ⟨-, -, kept, hkeep, hkept⟩ := submit_eq_ok hsubmit
  obtain rfl := hkept hstatus
  exact Config.load_of_keep hkeep

/-- Everything stays as it stands for as long as an address is asked for. -/
theorem standing_run_of_setup {es : List Event} (h : (l.run es).session.needsSetup = true) :
    (l.run es).standing = l.standing := by
  induction es generalizing l with
  | nil => rfl
  | cons e es ih =>
    rw [run_cons] at h ⊢
    rcases step_cases l e with hsame | ⟨-, -, htakes⟩
    · exact (ih h).trans hsame
    · have hfeed := htakes.needsSetup_eq
      rw [needsSetup_eq (standing_run_of_feed hfeed es), hfeed] at h
      cases h

end Loop

end FeedExplorer.Session
