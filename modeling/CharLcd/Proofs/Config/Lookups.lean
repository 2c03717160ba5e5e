import CharLcd.Session.Basic

/-! What is noted while the numbers of lines are looked up.

Whatever the source, a lookup notes nothing but the number it found, and a variable that it ignored.
-/

namespace CharLcd

/-- Whether a note is one that looking up a number makes. -/
def Note.ofLookup : Note → Bool
  | signalMapped _ _ | integerIgnored _ _ _ => true
  | _ => false

namespace Logged

variable {α β : Type}

/-- All that is noted on the way to a value are lookups. -/
def OfLookups (logged : Logged α) : Prop :=
  ∀ entry ∈ logged.notes, entry.ofLookup = true

/-- A value that is there already has no notes. -/
theorem OfLookups.pure (value : α) : (Pure.pure value : Logged α).OfLookups :=
  fun _ member => nomatch member

/-- The notes of a sequence are those of its parts. -/
theorem OfLookups.bind {first : Logged α} {next : α → Logged β} (lookups : first.OfLookups)
    (rest : ∀ value, (next value).OfLookups)
    : (first >>= next).OfLookups := by
  intro entry member
  rcases List.mem_append.mp member with earlier | later
  · exact lookups entry earlier
  · exact rest _ entry later

end Logged

/-- A lookup in the environment at most notes that a variable is ignored. -/
theorem ConfigSource.ofEnvironment_ofLookups (env : Environment) (area key : String)
    (fallback : Int64)
    : ((ofEnvironment env).getInt area key fallback).OfLookups := by
  simp only [ofEnvironment]
  split
  · exact .pure _
  · split
    · exact .pure _
    · intro entry member
      cases List.mem_singleton.mp member
      rfl

/-- A lookup in the settings is one in the environment at most. -/
theorem Settings.source_ofLookups (settings : Settings) (env : Environment)
    (area key : String) (fallback : Int64)
    : ((settings.source env).getInt area key fallback).OfLookups := by
  simp only [source]
  split
  · exact .pure _
  · exact ConfigSource.ofEnvironment_ofLookups env area key fallback

/-- Loading a configuration notes lookups only if its source does, lookup by lookup. -/
theorem PinConfig.load_ofLookups {source : ConfigSource}
    (lookups : ∀ area key fallback, (source.getInt area key fallback).OfLookups)
    (options : DisplayOptions)
    : (load source options).OfLookups := by
  have lookedUp (signal : Signal) : (lookUp source signal).OfLookups := by
    apply (lookups _ _ _).bind
    intro value entry member
    cases List.mem_singleton.mp member
    rfl
  unfold load
  refine (lookedUp .en).bind fun en => (lookedUp .rs).bind fun rs => ?_
  refine (lookedUp .d4).bind fun d4 => (lookedUp .d5).bind fun d5 => ?_
  refine (lookedUp .d6).bind fun d6 => (lookedUp .d7).bind fun d7 => ?_
  obtain ⟨controllers, backlight⟩ := options
  cases controllers <;> cases backlight
  · exact .pure _
  · exact (lookedUp .backlight).bind fun _ => .pure _
  · exact (lookedUp .en2).bind fun _ => .pure _
  · exact (lookedUp .en2).bind fun _ => (lookedUp .backlight).bind fun _ => .pure _

/-- Every source notes lookups only, by cases on the source. -/
theorem PinSource.load_ofLookups (env : Environment) (source : PinSource)
    (options : DisplayOptions)
    : (PinConfig.load (source.source env) options).OfLookups := by
  refine PinConfig.load_ofLookups (fun area key fallback => ?_) options
  cases source with
  | assignments values => exact .pure _
  | environment => exact ConfigSource.ofEnvironment_ofLookups env area key fallback
  | document settings => exact settings.source_ofLookups env area key fallback

end CharLcd
