import Chip8.Proofs.Wide.Beeper

/-!
# The beeper and its channel

A beeper asks the mixer once. At its first start it either gets a channel and a sound and keeps
both, or it gives the audio up and asks for nothing more. So its audio goes through at most one
change, and what may happen once, asking the mixer, making the sound or giving up with a line, is
paid for by that change. Between calls an open channel plays just when the beeper does, and the
volume it was told last is the beeper's: `Coherent` is kept by every call, as long as the channel is
told everything.
-/

namespace Chip8

/-- A mixer's channel, whatever it is made of. -/
structure Channel (σ : Type) where
  setVolume : Volume → σ → σ
  /-- Plays a sound and repeats it that many times, for ever if negative. -/
  play : Int → σ → σ
  stop : σ → σ
  volume : σ → Volume
  playing : σ → Bool

namespace Channel

variable {σ : Type}

/-- What a beeper relies on: a sound that is repeated for ever is heard until the channel is
stopped, whatever its volume. -/
structure Lawful (channel : Channel σ) : Prop where
  playing_setVolume : ∀ v s, channel.playing (channel.setVolume v s) = channel.playing s
  playing_play : ∀ loops s, loops < 0 → channel.playing (channel.play loops s) = true
  playing_stop : ∀ s, channel.playing (channel.stop s) = false

/-- A channel with the volume that it was told last, whether it plays or not. A lawful channel need
not be one: it may go back to a volume of its own when a sound begins. -/
structure KeepsVolume (channel : Channel σ) : Prop where
  volume_setVolume : ∀ v s, channel.volume (channel.setVolume v s) = v
  volume_play : ∀ loops s, channel.volume (channel.play loops s) = channel.volume s
  volume_stop : ∀ s, channel.volume (channel.stop s) = channel.volume s

/-- A channel that is nothing but its volume and whether it plays. -/
def plain : Channel (Volume × Bool) where
  setVolume v s := (v, s.2)
  play _ s := (s.1, true)
  stop s := (s.1, false)
  volume := Prod.fst
  playing := Prod.snd

theorem lawful_plain : plain.Lawful where
  playing_setVolume _ _ := rfl
  playing_play _ _ _ := rfl
  playing_stop _ := rfl

theorem keepsVolume_plain : plain.KeepsVolume where
  volume_setVolume _ _ := rfl
  volume_play _ _ := rfl
  volume_stop _ := rfl

/-- A channel hears of what it is told, and of nothing else that the toolkit is told. -/
def hear (channel : Channel σ) (s : σ) : ToolkitEvent → σ
  | .channelVolume v => channel.setVolume v s
  | .played loops => channel.play loops s
  | .silenced => channel.stop s
  | _ => s

def hearAll (channel : Channel σ) (s : σ) (events : List ToolkitEvent) : σ :=
  events.foldl channel.hear s

theorem hearAll_append (channel : Channel σ) (s : σ) (first second : List ToolkitEvent) :
    channel.hearAll s (first ++ second) = channel.hearAll (channel.hearAll s first) second :=
  List.foldl_append

end Channel

/-- The volume that the channel is told, if it is told one. -/
def ToolkitEvent.volume? : ToolkitEvent → Option Volume
  | .channelVolume v => some v
  | _ => none

/-- The volume that the channel was told last. -/
def lastVolume? (events : List ToolkitEvent) : Option Volume :=
  (events.filterMap ToolkitEvent.volume?).getLast?

theorem lastVolume?_append (first second : List ToolkitEvent) :
    lastVolume? (first ++ second) = (lastVolume? second).or (lastVolume? first) := by
  simp only [lastVolume?, List.filterMap_append, List.getLast?_append]

namespace Channel

variable {σ : Type} {channel : Channel σ}

theorem KeepsVolume.volume_hear (keeps : channel.KeepsVolume) (s : σ) (event : ToolkitEvent) :
    channel.volume (channel.hear s event) = event.volume?.getD (channel.volume s) := by
  cases event with
  | channelVolume v => exact keeps.volume_setVolume v s
  | played loops => exact keeps.volume_play loops s
  | silenced => exact keeps.volume_stop s
  | _ => rfl

theorem KeepsVolume.volume_hearAll (keeps : channel.KeepsVolume) (s : σ)
    (events : List ToolkitEvent) :
    channel.volume (channel.hearAll s events) =
      (lastVolume? events).getD (channel.volume s) := by
  induction events generalizing s with
  | nil => rfl
  | cons event rest ih =>
      have first : lastVolume? [event] = event.volume? := by cases event <;> rfl
      calc channel.volume (channel.hearAll (channel.hear s event) rest)
        _ = (lastVolume? rest).getD (event.volume?.getD (channel.volume s)) := by
            rw [ih, keeps.volume_hear]
        _ = (lastVolume? (event :: rest)).getD (channel.volume s) := by
            rw [← List.singleton_append, lastVolume?_append, first, Option.getD_or]

end Channel

def ToolkitEvent.isSound : ToolkitEvent → Bool
  | .soundMade _ => true
  | _ => false

def ToolkitEvent.isMixerRequest : ToolkitEvent → Bool
  | .mixerRequested .. => true
  | _ => false

namespace Beeper

variable {t : Toolkit} {b : Beeper}

/-! ### The ways of a start -/

/-- The mixer is asked for at most once, and the channel is an event only when it comes about. -/
theorem openChannel_eq (t : Toolkit) (sampleRate : Int) :
    ∃ asked, (asked = [] ∨ asked = [ToolkitEvent.mixerRequested sampleRate (-16) 1]) ∧
      ((∃ complaint, openChannel t sampleRate = (asked, some complaint)) ∨
        openChannel t sampleRate = (asked ++ [.channelOpened 0], none)) := by
  simp only [openChannel, openChannel.channel]
  split
  · exact ⟨[], .inl rfl, .inl ⟨_, rfl⟩⟩
  · exact ⟨[], .inl rfl, .inl ⟨_, rfl⟩⟩
  · refine ⟨[], .inl rfl, ?_⟩
    split
    · exact .inl ⟨_, rfl⟩
    · exact .inr rfl
  · refine ⟨[.mixerRequested sampleRate (-16) 1], .inr rfl, ?_⟩
    split
    · exact .inl ⟨_, rfl⟩
    · split
      · exact .inl ⟨_, rfl⟩
      · exact .inr rfl

theorem start_of_disabled (audio : b.audio = .disabled) : b.start t = { beeper := b.started } := by
  have audio' : b.started.audio = .disabled := audio
  have unasked : ensureChannel t b.started = { beeper := b.started } := by
    rw [ensureChannel, audio']
  have unheard : playTone t b.started = { beeper := b.started } := by
    rw [playTone, audio']
  rw [start, ← started, unasked, unheard]
  rfl

theorem start_of_opened (audio : b.audio = .opened true) :
    b.start t = { beeper := b.started, events := [.channelVolume b.volume, .played (-1)] } := by
  have audio' : b.started.audio = .opened true := audio
  have unasked : ensureChannel t b.started = { beeper := b.started } := by
    rw [ensureChannel, audio']
  have plays : playTone t b.started =
      { beeper := b.started, events := [.channelVolume b.volume, .played (-1)] } := by
    rw [playTone, audio']
    rfl
  rw [start, ← started, unasked, plays]
  rfl

theorem start_of_refused (audio : b.audio = .unopened) {events : List ToolkitEvent}
    {complaint : String} (refused : openChannel t b.sampleRate = (events, some complaint)) :
    b.start t = { beeper := { b.started with audio := .disabled }, events,
                  printed := ["audio disabled: " ++ complaint] } := by
  have audio' : b.started.audio = .unopened := audio
  have refused' : openChannel t b.started.sampleRate = (events, some complaint) := refused
  have asks : ensureChannel t b.started =
      { beeper := { b.started with audio := .disabled }, events,
        printed := ["audio disabled: " ++ complaint] } := by
    rw [ensureChannel, audio']
    simp only [refused']
  have unheard : playTone t { b.started with audio := .disabled } =
      { beeper := { b.started with audio := .disabled } } := rfl
  rw [start, ← started, asks, unheard]
  simp only [List.append_nil]

theorem start_of_channel (standard : b.Standard) (makes : ∀ n, t.makeSound n = none)
    (audio : b.audio = .unopened) {events : List ToolkitEvent}
    (opens : openChannel t b.sampleRate = (events, none)) :
    ∃ samples, b.start t =
      { beeper := { b.started with audio := .opened true },
        events := events ++ [.soundMade samples, .channelVolume b.volume, .played (-1)] } := by
  have standard' : { b.started with audio := .opened false }.Standard := standard
  obtain ⟨samples, tone⟩ := standard'.tone_eq_ok
  have audio' : b.started.audio = .unopened := audio
  have opens' : openChannel t b.started.sampleRate = (events, none) := opens
  have asks : ensureChannel t b.started =
      { beeper := { b.started with audio := .opened false }, events } := by
    rw [ensureChannel, audio']
    simp only [opens']
  have plays : playTone t { b.started with audio := .opened false } =
      { beeper := { b.started with audio := .opened true },
        events := [.soundMade samples, .channelVolume b.volume, .played (-1)] } := by
    simp only [playTone, tone, makes]
    rfl
  refine ⟨samples, ?_⟩
  rw [start, ← started, asks, plays]
  rfl

/-! ### The ways of a call -/

/-- A beeper with the default tone and, once its channel is open, with a sound to play. -/
structure Equipped (b : Beeper) : Prop where
  standard : b.Standard
  soundMade : b.audio ≠ .opened false

theorem equipped_new (volume : Volume) (audio : Bool) : (new 44100 440 volume audio).Equipped := by
  refine ⟨standard_new volume audio, ?_⟩
  cases audio <;> nofun

/-- The calls that a beeper answers a request with. -/
inductive Answers (b : Beeper) : Call → Prop
  | ignored : Answers b { beeper := b }
  | muted (audio : b.audio = .disabled) : Answers b { beeper := b.started }
  | replayed (audio : b.audio = .opened true) :
      Answers b { beeper := b.started, events := [.channelVolume b.volume, .played (-1)] }
  | refused (audio : b.audio = .unopened) {asked : List ToolkitEvent} (complaint : String)
      (asks : asked = [] ∨ asked = [.mixerRequested b.sampleRate (-16) 1]) :
      Answers b { beeper := { b.started with audio := .disabled }, events := asked,
                  printed := ["audio disabled: " ++ complaint] }
  | opened (audio : b.audio = .unopened) {asked : List ToolkitEvent} (samples : List Int)
      (asks : asked = [] ∨ asked = [.mixerRequested b.sampleRate (-16) 1]) :
      Answers b { beeper := { b.started with audio := .opened true },
                  events := asked ++ [.channelOpened 0, .soundMade samples,
                    .channelVolume b.volume, .played (-1)] }
  | stopped : Answers b b.stop
  | volume (v : Volume) : Answers b (b.setVolume v)

theorem answers_start (equipped : b.Equipped) (makes : ∀ n, t.makeSound n = none) :
    b.Answers (b.start t) := by
  cases audio : b.audio with
  | disabled =>
      rw [start_of_disabled audio]
      exact .muted audio
  | opened soundMade =>
      cases soundMade with
      | false => exact absurd audio equipped.soundMade
      | true =>
          rw [start_of_opened audio]
          exact .replayed audio
  | unopened =>
      obtain ⟨asked, asks, ⟨complaint, refuses⟩ | opens⟩ := openChannel_eq t b.sampleRate
      · rw [start_of_refused audio refuses]
        exact .refused audio complaint asks
      · obtain ⟨samples, starts⟩ := start_of_channel equipped.standard makes audio opens
        rw [starts, List.append_assoc]
        exact .opened audio samples asks

theorem answers_serve (equipped : b.Equipped) (makes : ∀ n, t.makeSound n = none)
    (request : Request) : b.Answers (b.serve t request) := by
  cases request with
  | start => exact answers_start equipped makes
  | stop => exact .stopped
  | setVolume v => exact .volume v
  | update active =>
      simp only [serve, update]
      split
      · exact answers_start equipped makes
      · split
        · exact .stopped
        · exact .ignored

namespace Answers

variable {c : Call}

theorem equipped (answers : b.Answers c) (equipped : b.Equipped) : c.beeper.Equipped := by
  obtain ⟨standard, soundMade⟩ := equipped
  cases answers with
  | ignored | muted | replayed | stopped | volume => exact ⟨standard, soundMade⟩
  | refused | opened => exact ⟨standard, nofun⟩

theorem failure (answers : b.Answers c) : c.failure = none := by
  cases answers <;> rfl

end Answers

/-! ### The beeper's variables -/

theorem Call.consistent_wide {c : Call} (equipped : c.beeper.Equipped) : c.wide.Consistent := by
  obtain ⟨samples, tone⟩ := equipped.standard.tone_eq_ok
  cases audio : c.beeper.audio with
  | disabled | unopened => constructor <;> simp [Call.wide, Beeper.wide, channelOpen, audio]
  | opened soundMade =>
      cases soundMade with
      | false => exact absurd audio equipped.soundMade
      | true =>
          constructor <;>
            simp [Call.wide, Beeper.wide, channelOpen, audioEnabled, audio, tone, Except.toOption]

/-- Call by call, the variables go through the values that the audio's state stands for. -/
theorem serveAll_wide {c : Call} (equipped : c.beeper.Equipped)
    {requests : List (Toolkit × Request)}
    (makes : ∀ asked ∈ requests, ∀ n, asked.1.makeSound n = none) :
    c.wide.serveAll requests = (c.beeper.serveAll requests).map fun call => (call.wide, none) := by
  induction requests generalizing c with
  | nil => rfl
  | cons asked rest ih =>
      obtain ⟨t, request⟩ := asked
      obtain ⟨first, others⟩ := List.forall_mem_cons.mp makes
      have answers := answers_serve equipped first request
      have served : c.wide.call t request = ((c.beeper.serve t request).wide, none) := by
        rw [WideBeeper.call_wide equipped.standard (absurd · equipped.soundMade), answers.failure]
        rfl
      rw [WideBeeper.serveAll, served, ih (answers.equipped equipped) others]
      rfl

/-! ### Beeper and channel -/

@[simp] theorem audioEnabled_eq_true : b.audioEnabled = true ↔ b.audio ≠ .disabled := by
  simp [audioEnabled]

/-- What a channel, the volume it was told last and its beeper have to do with each other between
two calls. -/
structure Coherent {σ : Type} (channel : Channel σ) (s : σ) (last : Option Volume) (b : Beeper) :
    Prop where
  sounds : channel.playing s = true ↔ b.playing = true ∧ b.audioEnabled = true
  volume : channel.playing s = true → last = some b.volume
  unopened : b.audio = .unopened → b.playing = false

section

variable {σ : Type} {channel : Channel σ} {s : σ} {last : Option Volume} {c : Call}

theorem Coherent.silent (coherent : Coherent channel s last b) (unopened : b.channelOpen = false) :
    channel.playing s = false := by
  refine Bool.eq_false_iff.mpr fun sounds => ?_
  obtain ⟨playing, enabled⟩ := coherent.sounds.mp sounds
  cases audio : b.audio with
  | disabled => exact audioEnabled_eq_true.mp enabled audio
  | unopened => exact Bool.false_ne_true ((coherent.unopened audio).symm.trans playing)
  | opened => simp [channelOpen, audio] at unopened

theorem coherent_of_silent (silent : channel.playing s = false)
    (quiet : b.playing = false ∨ b.audio = .disabled) : Coherent channel s last b where
  sounds := by
    rw [silent, audioEnabled_eq_true]
    rcases quiet with quiet | quiet <;> simp [quiet]
  volume sounds := absurd (silent.symm.trans sounds) Bool.false_ne_true
  unopened audio := quiet.elim id fun disabled => nomatch disabled.symm.trans audio

theorem coherent_of_sounding (sounds : channel.playing s = true)
    (volume : last = some b.volume) (playing : b.playing = true)
    (opened : b.audio = .opened true) : Coherent channel s last b where
  sounds := iff_of_true sounds ⟨playing, by simp [opened]⟩
  volume _ := volume
  unopened audio := nomatch opened.symm.trans audio

theorem hearAll_asked {asked : List ToolkitEvent} {rate sampleSize channels : Int}
    (asks : asked = [] ∨ asked = [.mixerRequested rate sampleSize channels]) :
    channel.hearAll s asked = s := by
  obtain rfl | rfl := asks <;> rfl

/-- However a call goes, the two agree again once the channel has heard of it. -/
theorem Coherent.answers (lawful : channel.Lawful) (coherent : Coherent channel s last b)
    (answers : b.Answers c) :
    Coherent channel (channel.hearAll s c.events) ((lastVolume? c.events).or last) c.beeper := by
  have sounding : channel.playing (channel.play (-1) (channel.setVolume b.volume s)) = true :=
    lawful.playing_play _ _ (by decide)
  cases answers with
  | ignored => exact coherent
  | muted audio =>
      exact coherent_of_silent (coherent.silent (by rw [channelOpen, audio])) (.inr audio)
  | replayed audio => exact coherent_of_sounding sounding rfl rfl audio
  | refused audio complaint asks =>
      rw [hearAll_asked asks]
      exact coherent_of_silent (coherent.silent (by rw [channelOpen, audio])) (.inr rfl)
  | opened audio samples asks =>
      rw [Channel.hearAll_append, hearAll_asked asks, lastVolume?_append]
      exact coherent_of_sounding sounding rfl rfl rfl
  | stopped =>
      refine coherent_of_silent ?_ (.inl rfl)
      cases unopened : b.channelOpen with
      | true =>
          rw [stop, unopened]
          exact lawful.playing_stop s
      | false =>
          rw [stop, unopened]
          exact coherent.silent unopened
  | volume v =>
      cases unopened : b.channelOpen with
      | true =>
          rw [setVolume, unopened]
          exact ⟨(lawful.playing_setVolume v s).symm ▸ coherent.sounds, fun _ => rfl,
            coherent.unopened⟩
      | false =>
          rw [setVolume, unopened]
          exact ⟨coherent.sounds,
            fun sounds => absurd ((coherent.silent unopened).symm.trans sounds) Bool.false_ne_true,
            coherent.unopened⟩

end

/-! ### From call to call -/

/-- The calls that take one beeper to another. -/
inductive Leads : Beeper → List Call → Beeper → Prop
  | nil {b : Beeper} : Leads b [] b
  | cons {b ended : Beeper} {c : Call} {calls : List Call} (answers : b.Answers c)
      (rest : Leads c.beeper calls ended) : Leads b (c :: calls) ended

theorem leads_serveAll (equipped : b.Equipped) {requests : List (Toolkit × Request)}
    (makes : ∀ asked ∈ requests, ∀ n, asked.1.makeSound n = none) :
    Leads b (b.serveAll requests) (b.afterAll requests) := by
  induction requests generalizing b with
  | nil => exact .nil
  | cons asked rest ih =>
      obtain ⟨t, request⟩ := asked
      obtain ⟨first, others⟩ := List.forall_mem_cons.mp makes
      have answers := answers_serve equipped first request
      exact .cons answers (ih (answers.equipped equipped) others)

namespace Leads

variable {ended : Beeper} {calls : List Call}

theorem failure (leads : Leads b calls ended) : ∀ call ∈ calls, call.failure = none := by
  induction leads with
  | nil => nofun
  | cons answers _ ih => exact List.forall_mem_cons.mpr ⟨answers.failure, ih⟩

theorem consistent (leads : Leads b calls ended) (equipped : b.Equipped) :
    ∀ call ∈ calls, call.wide.Consistent := by
  induction leads with
  | nil => nofun
  | cons answers _ ih =>
      have equipped' := answers.equipped equipped
      exact List.forall_mem_cons.mpr ⟨Call.consistent_wide equipped', ih equipped'⟩

theorem coherent {σ : Type} {channel : Channel σ} (lawful : channel.Lawful) {s : σ}
    {last : Option Volume} (leads : Leads b calls ended) (coherent : Coherent channel s last b) :
    Coherent channel (channel.hearAll s (calls.flatMap (·.events)))
      ((lastVolume? (calls.flatMap (·.events))).or last) ended := by
  induction leads generalizing s last with
  | nil => exact coherent
  | cons answers _ ih =>
      rw [List.flatMap_cons, Channel.hearAll_append, lastVolume?_append, Option.or_assoc]
      exact ih (coherent.answers lawful answers)

theorem split {c : Call} {before after : List Call}
    (leads : Leads b (before ++ c :: after) ended) :
    ∃ asked : Beeper, asked.Answers c ∧ Leads c.beeper after ended := by
  induction before generalizing b with
  | nil =>
      cases leads with
      | cons answers rest => exact ⟨b, answers, rest⟩
  | cons first before ih =>
      cases leads with
      | cons _ rest => exact ih rest

end Leads

/-! ### What may happen once -/

/-- The times that the mixer may be asked still. -/
def credit (b : Beeper) : Nat := if b.audio = .unopened then 1 else 0

/-- What happens in a call at the cost of the audio's one change. -/
structure Call.Paid (b : Beeper) (c : Call) : Prop where
  sound : c.events.countP ToolkitEvent.isSound + c.beeper.credit ≤ b.credit
  request : c.events.countP ToolkitEvent.isMixerRequest + c.beeper.credit ≤ b.credit
  line : c.printed.length + c.beeper.credit ≤ b.credit

theorem Answers.paid {c : Call} (answers : b.Answers c) : c.Paid b := by
  -- a call that leaves the audio as it is makes no sound, asks for nothing and prints nothing
  have free (next : Beeper) (events : List ToolkitEvent) (same : next.audio = b.audio)
      (soundless : events.countP ToolkitEvent.isSound = 0)
      (unasked : events.countP ToolkitEvent.isMixerRequest = 0) :
      Call.Paid b { beeper := next, events } := by
    constructor <;> simp [credit, same, soundless, unasked]
  cases answers with
  | ignored => exact free b [] rfl rfl rfl
  | muted => exact free b.started [] rfl rfl rfl
  | replayed => exact free b.started _ rfl rfl rfl
  | refused audio complaint asks =>
      constructor <;> rcases asks with rfl | rfl <;>
        simp [credit, audio, ToolkitEvent.isSound, ToolkitEvent.isMixerRequest]
  | opened audio samples asks =>
      constructor <;> rcases asks with rfl | rfl <;>
        simp [credit, audio, List.countP_cons, ToolkitEvent.isSound, ToolkitEvent.isMixerRequest]
  | stopped =>
      refine free _ (if b.channelOpen then [.silenced] else []) rfl ?_ ?_ <;> split <;> rfl
  | volume v =>
      refine free _ (if b.channelOpen then [.channelVolume v] else []) rfl ?_ ?_ <;> split <;> rfl

theorem Leads.countP_le {ended : Beeper} {calls : List Call} (leads : Leads b calls ended)
    {α : Type} {part : Call → List α} {p : α → Bool}
    (paid : ∀ {b : Beeper} {c : Call}, b.Answers c →
      (part c).countP p + c.beeper.credit ≤ b.credit) :
    (calls.flatMap part).countP p + ended.credit ≤ b.credit := by
  induction leads with
  | nil => simp
  | cons answers _ ih =>
      have spent := paid answers
      rw [List.flatMap_cons, List.countP_append]
      omega

/-! ### Without audio -/

def muted (b : Beeper) : Beeper := { b with audio := .disabled }

theorem muted_ensureChannel (t : Toolkit) (b : Beeper) :
    (ensureChannel t b).beeper.muted = b.muted := by
  simp only [ensureChannel]
  split
  · rfl
  · rfl
  · split <;> rfl

theorem muted_playTone (t : Toolkit) (b : Beeper) : (playTone t b).beeper.muted = b.muted := by
  simp only [playTone]
  split
  · rfl
  · rfl
  · rfl
  · split
    · rfl
    · split <;> rfl

theorem muted_start (t : Toolkit) (b : Beeper) : (b.start t).beeper.muted = b.started.muted := by
  rw [start, muted_playTone, muted_ensureChannel, ← started]

/-- What the mixer does to a beeper is to its audio only. -/
theorem muted_serve (t : Toolkit) (b : Beeper) (request : Request) :
    (b.serve t request).beeper.muted = (b.muted.serve t request).beeper := by
  have starts : (b.start t).beeper.muted = (b.muted.start t).beeper := by
    rw [muted_start, start_of_disabled rfl]
    rfl
  cases request with
  | start => exact starts
  | stop => rfl
  | setVolume v => rfl
  | update active =>
      have playing : b.muted.playing = b.playing := rfl
      simp only [serve, update, playing]
      split
      · exact starts
      · split <;> rfl

theorem muted_afterAll (b : Beeper) (requests : List (Toolkit × Request)) :
    (b.afterAll requests).muted = b.muted.afterAll requests := by
  induction requests generalizing b with
  | nil => rfl
  | cons asked rest ih => rw [afterAll, afterAll, ih, muted_serve]

theorem serve_of_disabled (audio : b.audio = .disabled) (t t' : Toolkit) (request : Request) :
    b.serve t request = b.serve t' request := by
  have starts : b.start t = b.start t' := by rw [start_of_disabled audio, start_of_disabled audio]
  cases request with
  | start => exact starts
  | stop => rfl
  | setVolume v => rfl
  | update active => simp only [serve, update, starts]

theorem audio_serve_of_disabled (audio : b.audio = .disabled) (t : Toolkit) (request : Request) :
    (b.serve t request).beeper.audio = .disabled := by
  cases request with
  | start => rw [serve, start_of_disabled audio]; exact audio
  | stop => exact audio
  | setVolume v => exact audio
  | update active =>
      simp only [serve, update]
      split
      · rw [start_of_disabled audio]; exact audio
      · split <;> exact audio

/-- A beeper without audio looks at no toolkit. -/
theorem serveAll_of_disabled (audio : b.audio = .disabled) {requests : List (Toolkit × Request)} :
    ∀ {others : List (Toolkit × Request)}, requests.map Prod.snd = others.map Prod.snd →
      b.serveAll requests = b.serveAll others := by
  induction requests generalizing b with
  | nil =>
      intro others same
      rw [List.map_eq_nil_iff.mp same.symm]
  | cons asked rest ih =>
      intro others same
      obtain ⟨t, request⟩ := asked
      cases others with
      | nil => simp at same
      | cons other others =>
          obtain ⟨t', request'⟩ := other
          simp only [List.map_cons, List.cons.injEq] at same
          obtain ⟨rfl, same⟩ := same
          have served := serve_of_disabled audio t t' request
          have audio' := audio_serve_of_disabled audio t' request
          rw [serveAll, serveAll, served, ih audio' same]

theorem Answers.of_disabled {c : Call} (answers : b.Answers c) (audio : b.audio = .disabled) :
    c.beeper.audio = .disabled ∧ c.events = [] ∧ c.printed = [] := by
  have closed : b.channelOpen = false := by rw [channelOpen, audio]
  cases answers with
  | ignored | muted => exact ⟨audio, rfl, rfl⟩
  | replayed opened => simp [audio] at opened
  | refused unopened | opened unopened => simp [audio] at unopened
  | stopped => exact ⟨audio, by simp [stop, closed], rfl⟩
  | volume v => exact ⟨audio, by simp [setVolume, closed], rfl⟩

theorem Leads.of_disabled {ended : Beeper} {calls : List Call} (leads : Leads b calls ended)
    (audio : b.audio = .disabled) :
    ∀ call ∈ calls, call.beeper.audio = .disabled ∧ call.events = [] ∧ call.printed = [] := by
  induction leads with
  | nil => nofun
  | cons answers _ ih =>
      have first := answers.of_disabled audio
      exact List.forall_mem_cons.mpr ⟨first, ih first.1⟩

/-- The audio is given up in the calls that print a line. -/
theorem Answers.audioEnabled_iff {c : Call} (answers : b.Answers c) :
    c.beeper.audioEnabled = true ↔ b.audioEnabled = true ∧ c.printed = [] := by
  cases answers with
  | ignored | muted | replayed | stopped | volume => exact (and_iff_left rfl).symm
  | refused => exact iff_of_false nofun fun enabled => nomatch enabled.2
  | opened audio => simp [audio]

theorem Leads.audioEnabled_iff {ended : Beeper} {calls : List Call} (leads : Leads b calls ended) :
    ended.audioEnabled = true ↔ b.audioEnabled = true ∧ calls.flatMap (·.printed) = [] := by
  induction leads with
  | nil => simp
  | cons answers _ ih =>
      rw [ih, answers.audioEnabled_iff, List.flatMap_cons, List.append_eq_nil_iff, and_assoc]

theorem Answers.of_line {c : Call} (answers : b.Answers c) (line : c.printed ≠ []) :
    (∃ complaint, c.printed = ["audio disabled: " ++ complaint]) ∧ c.beeper.audio = .disabled ∧
      ∀ event ∈ c.events, event.isMixerRequest = true := by
  cases answers with
  | refused audio complaint asks =>
      refine ⟨⟨complaint, rfl⟩, rfl, ?_⟩
      obtain rfl | rfl := asks <;> simp [ToolkitEvent.isMixerRequest]
  | ignored | muted | replayed | opened | stopped | volume => exact absurd rfl line

/-- After any calls of a fresh beeper, with toolkits that may refuse whatever they like except a
sound: the channel plays just when the beeper does and still has its audio, and then the volume it
was told last is the beeper's, which is its own if it keeps what it is told. At most one sound has
been made, the mixer asked for once and one line printed. A line gives the audio up: what follows it
is told to nobody and depends on no toolkit. What the beeper counts as playing and remembers is what
it would without audio. The beeper's variables, each written by itself, go through the same calls
and are consistent after every one of them. -/
theorem channel_follows_beeper {σ : Type} {channel : Channel σ} (lawful : channel.Lawful) {idle : σ}
    (silent : channel.playing idle = false) (volume : Volume)
    {requests : List (Toolkit × Request)}
    (makes : ∀ asked ∈ requests, ∀ n, asked.1.makeSound n = none) :
    let fresh := new 44100 440 volume true
    let calls := fresh.serveAll requests
    let ended := fresh.afterAll requests
    let without := (new 44100 440 volume false).afterAll requests
    let events := calls.flatMap (·.events)
    let heard := channel.hearAll idle events
    let lines := calls.flatMap (·.printed)
    (WideBeeper.fresh volume).serveAll requests = calls.map (fun call => (call.wide, none)) ∧
    (∀ call ∈ calls, call.failure = none ∧ call.wide.Consistent) ∧
    (channel.playing heard = true ↔ ended.playing = true ∧ ended.audioEnabled = true) ∧
    (channel.playing heard = true → lastVolume? events = some ended.volume) ∧
    (channel.KeepsVolume → channel.playing heard = true → channel.volume heard = ended.volume) ∧
    events.countP ToolkitEvent.isSound ≤ 1 ∧
    events.countP ToolkitEvent.isMixerRequest ≤ 1 ∧
    lines.length ≤ 1 ∧
    (ended.audioEnabled = true ↔ lines = []) ∧
    (∀ before call after, calls = before ++ call :: after → call.printed ≠ [] →
      (∃ complaint, call.printed = ["audio disabled: " ++ complaint]) ∧
      call.beeper.audioEnabled = false ∧
      (∀ event ∈ call.events, event.isMixerRequest = true) ∧
      (∀ later ∈ after,
        later.beeper.audioEnabled = false ∧ later.events = [] ∧ later.printed = []) ∧
      ∀ rest others : List (Toolkit × Request), rest.map Prod.snd = others.map Prod.snd →
        call.beeper.serveAll rest = call.beeper.serveAll others) ∧
    ended.playing = without.playing ∧ ended.history = without.history := by
  intro fresh calls ended without events heard lines
  have equipped : fresh.Equipped := equipped_new volume true
  have leads : Leads fresh calls ended := leads_serveAll equipped makes
  have served : (WideBeeper.fresh volume).serveAll requests =
      calls.map fun call => (call.wide, none) :=
    serveAll_wide (c := { beeper := fresh }) equipped makes
  have coherent : Coherent channel heard (lastVolume? events) ended := by
    have begun : Coherent channel idle none fresh := coherent_of_silent silent (.inl rfl)
    have told := leads.coherent lawful begun
    rw [Option.or_none] at told
    exact told
  have kept (keeps : channel.KeepsVolume) (sounds : channel.playing heard = true) :
      channel.volume heard = ended.volume := by
    rw [keeps.volume_hearAll, coherent.volume sounds]
    rfl
  -- a fresh beeper has a credit of one
  have sounds := leads.countP_le fun answers => answers.paid.sound
  have requested := leads.countP_le fun answers => answers.paid.request
  have printed : lines.countP (fun _ => true) + ended.credit ≤ 1 :=
    leads.countP_le fun answers => by simpa using answers.paid.line
  have given : ended.audioEnabled = true ↔ lines = [] :=
    leads.audioEnabled_iff.trans (and_iff_right rfl)
  have alike : ended.muted = without := muted_afterAll fresh requests
  have playing : ended.muted.playing = without.playing := by rw [alike]
  have history : ended.muted.history = without.history := by rw [alike]
  refine ⟨served, fun call mem => ⟨leads.failure call mem, leads.consistent equipped call mem⟩,
    coherent.sounds, coherent.volume, kept, Nat.le_of_add_right_le sounds,
    Nat.le_of_add_right_le requested, ?_, given, ?_, playing, history⟩
  · rw [← List.countP_true]
    exact Nat.le_of_add_right_le printed
  · intro before call after parts line
    rw [parts] at leads
    obtain ⟨asked, answers, rest⟩ := leads.split
    obtain ⟨complaint, audio, asks⟩ := answers.of_line line
    refine ⟨complaint, by simp [audioEnabled, audio], asks, fun later mem => ?_,
      fun rest others same => serveAll_of_disabled audio same⟩
    obtain ⟨audio', events, printed⟩ := rest.of_disabled audio later mem
    exact ⟨by simp [audioEnabled, audio'], events, printed⟩

/-- A mixer that opens plays on at the volume set last. One that does not costs the beeper its audio,
with one line, and later starts are remembered all the same. -/
theorem channel_follows_beeper_of_plain :
    let opening : List (Toolkit × Request) := [({}, .update true), ({}, .setVolume .silent)]
    let broken : Toolkit := { openMixer := some "no audio device" }
    let failing : List (Toolkit × Request) := [(broken, .start), ({}, .update true), ({}, .start)]
    let heard := Channel.plain.hearAll (.full, false)
      (((new 44100 440 .full true).serveAll opening).flatMap (·.events))
    let lines := ((new 44100 440 .full true).serveAll failing).flatMap (·.printed)
    let ended := (new 44100 440 .full true).afterAll failing
    Channel.plain.playing heard = true ∧ Channel.plain.volume heard = .silent ∧
      lines = ["audio disabled: no audio device"] ∧
      ended.audioEnabled = false ∧ ended.history = [.start, .start] := by
  intro opening broken failing
  have silent : Channel.plain.playing (.full, false) = false := rfl
  have makes : ∀ asked ∈ opening, ∀ n, asked.1.makeSound n = none := by simp [opening]
  have makes' : ∀ asked ∈ failing, ∀ n, asked.1.makeSound n = none := by simp [failing, broken]
  obtain ⟨-, -, sounds, -, volume, -, -, -, enabled, -, playing, -⟩ :=
    channel_follows_beeper Channel.lawful_plain silent .full makes
  obtain ⟨-, -, -, -, -, -, -, -, enabled', -, -, history⟩ :=
    channel_follows_beeper Channel.lawful_plain silent .full makes'
  let fresh := new 44100 440 .full true
  obtain ⟨samples, starts⟩ :=
    start_of_channel (t := {}) (b := fresh) ⟨rfl, rfl⟩ (fun _ => rfl) rfl rfl
  have served : fresh.serve {} (.update true) = fresh.start {} := rfl
  -- the first call is rewritten and not computed, for its sound has 44100 samples
  have unprinted : (fresh.serveAll opening).flatMap (·.printed) = [] := by
    rw [serveAll, served, starts]
    rfl
  have quiet : (fresh.afterAll opening).volume = .silent := by
    rw [afterAll, served, starts]
    rfl
  have plays := sounds.mpr ⟨playing, enabled.mpr unprinted⟩
  have volume' := volume Channel.keepsVolume_plain plays
  have printed :
      (fresh.serveAll failing).flatMap (·.printed) = ["audio disabled: no audio device"] := rfl
  have disabled : ¬ (fresh.afterAll failing).audioEnabled = true := fun on =>
    nomatch printed.symm.trans (enabled'.mp on)
  exact ⟨plays, volume'.trans quiet, printed, Bool.eq_false_iff.mpr disabled, history⟩

end Beeper

end Chip8
