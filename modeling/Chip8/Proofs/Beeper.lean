import Chip8.Proofs.Tone

/-!
# The beeper at a willing toolkit

A toolkit that refuses nothing opens the channel when it is asked to, and the default tone can
always be made into a sound. So no call of a beeper with that tone breaks off, writes a line, or asks
for the events of a frame.
-/

namespace Chip8

/-- The frame whose events were asked for, if this is such a request. -/
def ToolkitEvent.frame? : ToolkitEvent → Option Nat
  | .polled number => some number
  | _ => none

namespace Beeper

/-- A beeper with the default tone. -/
def Standard (b : Beeper) : Prop := b.sampleRate = 44100 ∧ b.frequency = 440

theorem standard_new (volume : Volume) (audio : Bool) : (new 44100 440 volume audio).Standard :=
  ⟨rfl, rfl⟩

theorem Standard.tone_eq_ok {b : Beeper} (standard : b.Standard) :
    ∃ samples, b.tone? toneDuration = .ok samples := by
  obtain ⟨samples, made⟩ := Tone.samples?_default
  exact ⟨samples, by rw [tone?, standard.1, standard.2, made]⟩

/-- A call that came to its end and that only the toolkit heard of. -/
structure Call.Smooth (c : Call) : Prop where
  standard : c.beeper.Standard
  printed : c.printed = []
  failure : c.failure = none
  frames : ∀ event ∈ c.events, event.frame? = none

variable {t : Toolkit} {b : Beeper}

theorem openChannel_of_willing (willing : t.Willing) (sampleRate : Int) :
    (openChannel t sampleRate).2 = none ∧
      ∀ event ∈ (openChannel t sampleRate).1, event.frame? = none := by
  obtain ⟨present, ⟨isOpen, mixer⟩, mixerOpens, channelOpens, -, -⟩ := willing
  cases isOpen <;>
    simp [openChannel, openChannel.channel, present, mixer, mixerOpens, channelOpens,
      ToolkitEvent.frame?]

theorem smooth_ensureChannel (willing : t.Willing) (standard : b.Standard) :
    (ensureChannel t b).Smooth := by
  obtain ⟨opens, quiet⟩ := openChannel_of_willing willing b.sampleRate
  cases audio : b.audio with
  | disabled =>
      rw [ensureChannel, audio]
      exact ⟨standard, rfl, rfl, nofun⟩
  | opened soundMade =>
      rw [ensureChannel, audio]
      exact ⟨standard, rfl, rfl, nofun⟩
  | unopened =>
      rcases answer : openChannel t b.sampleRate with ⟨events, refusal⟩
      rw [answer] at opens quiet
      obtain rfl : refusal = none := opens
      rw [ensureChannel, audio]
      simp only [answer]
      exact ⟨standard, rfl, rfl, quiet⟩

theorem smooth_playTone (willing : t.Willing) (standard : b.Standard) : (playTone t b).Smooth := by
  have plays : ∀ event ∈ [ToolkitEvent.channelVolume b.volume, .played (-1)],
      event.frame? = none := by
    simp [ToolkitEvent.frame?]
  cases audio : b.audio with
  | disabled =>
      rw [playTone, audio]
      exact ⟨standard, rfl, rfl, nofun⟩
  | unopened =>
      rw [playTone, audio]
      exact ⟨standard, rfl, rfl, nofun⟩
  | opened soundMade =>
      cases soundMade with
      | true =>
          rw [playTone, audio]
          exact ⟨standard, rfl, rfl, plays⟩
      | false =>
          obtain ⟨samples, tone⟩ := standard.tone_eq_ok
          have accepted : t.makeSound b.history.length = none := willing.2.2.2.2.1 _
          rw [playTone, audio]
          simp only [tone, accepted]
          exact ⟨standard, rfl, rfl, List.forall_mem_cons.mpr ⟨rfl, plays⟩⟩

theorem smooth_start (willing : t.Willing) (standard : b.Standard) : (b.start t).Smooth := by
  have ready :=
    smooth_ensureChannel (b := { b.record .start with playing := true }) willing standard
  have played := smooth_playTone willing ready.standard
  refine ⟨played.standard, ?_, played.failure, ?_⟩
  · simp only [start, ready.printed, played.printed, List.append_nil]
  · intro event mem
    rcases List.mem_append.mp mem with opening | playing
    · exact ready.frames event opening
    · exact played.frames event playing

theorem frame?_of_mem_stop (b : Beeper) : ∀ event ∈ b.stop.events, event.frame? = none := by
  simp only [stop]
  split <;> simp [ToolkitEvent.frame?]

theorem smooth_stop (standard : b.Standard) : b.stop.Smooth :=
  ⟨standard, rfl, rfl, b.frame?_of_mem_stop⟩

theorem smooth_update (willing : t.Willing) (standard : b.Standard) (active : Bool) :
    (b.update t active).Smooth := by
  rw [update]
  split
  · exact smooth_start willing standard
  · split
    · exact smooth_stop standard
    · exact ⟨standard, rfl, rfl, nofun⟩

/-! ### Requests -/

/-- What a beeper may be asked to do. A volume is brought into its bounds before. -/
inductive Request
  | update (active : Bool)
  | start
  | stop
  | setVolume (v : Volume)

def serve (b : Beeper) (t : Toolkit) : Request → Call
  | .update active => b.update t active
  | .start => b.start t
  | .stop => b.stop
  | .setVolume v => b.setVolume v

/-- The calls for requests in turn, each with the toolkit as it is by then. -/
def serveAll (b : Beeper) : List (Toolkit × Request) → List Call
  | [] => []
  | (t, request) :: rest => b.serve t request :: (b.serve t request).beeper.serveAll rest

def afterAll (b : Beeper) : List (Toolkit × Request) → Beeper
  | [] => b
  | (t, request) :: rest => (b.serve t request).beeper.afterAll rest

/-- The beeper once a start is recorded. -/
def started (b : Beeper) : Beeper := { b.record .start with playing := true }

end Beeper

end Chip8
