import InfraConfig.Proofs.Source.Faithful

/-! How often sources are read. A resolver counts how often it has worked; what it has read with
success it remembers for `ttl`, whatever else is resolved meanwhile. So its count grows for a text
exactly if the text was not read within the last `ttl` (`Remembers.oncePerWindow`). Module sources
and provider addresses reach their caches in different ways, and both are resolvers of this kind
(`ModuleSources.remembers`, `ProviderSources.remembers`); an address that cannot be read is tried
every time, and never stored (`reads_once_per_window`). -/
namespace InfraConfig

/-- What happens to a resolver. -/
inductive ResolverEvent where
  | resolve (text : String)
  /-- Time goes on, in milliseconds. -/
  | advance (duration : Nat)

/-- One text that was resolved, with the count of the resolver before and after. -/
structure Resolution where
  text : String
  time : Nat
  /-- Whether the text is answered with a source. -/
  answered : Bool
  countBefore : Nat
  countAfter : Nat

namespace Resolution

/-- The text was read: the count has grown, and with success. -/
def Reads (r : Resolution) : Prop := r.countBefore < r.countAfter ∧ r.answered = true

/-- A text was read less than `ttl` before a time. -/
def ReadWithin (ttl : Nat) (log : List Resolution) (text : String) (time : Nat) : Prop :=
  ∃ r ∈ log, r.text = text ∧ r.Reads ∧ time - r.time < ttl

/-- One is added to the count exactly if the text was not read within the last `ttl`. -/
structure CountsAfter (ttl : Nat) (earlier : List Resolution) (r : Resolution) : Prop where
  same : ReadWithin ttl earlier r.text r.time → r.countAfter = r.countBefore
  one : ¬ ReadWithin ttl earlier r.text r.time → r.countAfter = r.countBefore + 1

/-- Each resolution counts as what comes before it tells. -/
def OncePerWindow (ttl : Nat) (log : List Resolution) : Prop :=
  ∀ earlier r later, log = earlier ++ r :: later → r.CountsAfter ttl earlier

theorem readWithin_concat {ttl : Nat} {log : List Resolution} {r : Resolution} {text : String}
    {time : Nat} : ReadWithin ttl (log ++ [r]) text time ↔
      ReadWithin ttl log text time ∨ r.text = text ∧ r.Reads ∧ time - r.time < ttl := by
  simp [ReadWithin, or_and_right, exists_or]

/-- What was not read within the last `ttl` has not been later. -/
theorem ReadWithin.of_le {ttl : Nat} {log : List Resolution} {text : String} {time later : Nat}
    (h : ReadWithin ttl log text later) (hle : time ≤ later) : ReadWithin ttl log text time := by
  obtain ⟨r, hr, htext, hreads, hwindow⟩ := h
  exact ⟨r, hr, htext, hreads, by omega⟩

end Resolution

open Resolution (ReadWithin CountsAfter OncePerWindow readWithin_concat)

/-- What can be seen of a resolver: whether a text is answered with a source, and its count. -/
structure ResolverView (σ : Type) where
  resolve : σ → Nat → String → Bool × σ
  count : σ → Nat

namespace ResolverView

variable {σ : Type}

/-- What is seen of a text that is resolved. -/
def resolution (v : ResolverView σ) (s : σ) (now : Nat) (text : String) : Resolution where
  text := text
  time := now
  answered := (v.resolve s now text).1
  countBefore := v.count s
  countAfter := v.count (v.resolve s now text).2

/-- The texts that are resolved, in order. -/
def log (v : ResolverView σ) (s : σ) (now : Nat) : List ResolverEvent → List Resolution
  | [] => []
  | .resolve text :: rest => v.resolution s now text :: v.log (v.resolve s now text).2 now rest
  | .advance duration :: rest => v.log s (now + duration) rest

/-- The resolver afterwards. -/
def after (v : ResolverView σ) (s : σ) (now : Nat) : List ResolverEvent → σ
  | [] => s
  | .resolve text :: rest => v.after (v.resolve s now text).2 now rest
  | .advance duration :: rest => v.after s (now + duration) rest

variable {v : ResolverView σ} {P : σ → Prop}
  (hstep : ∀ s now text, P s → P (v.resolve s now text).2)
include hstep

/-- What every resolution keeps holds afterwards. -/
theorem after_keeps {s : σ} (h : P s) (now : Nat) (events : List ResolverEvent) :
    P (v.after s now events) := by
  induction events generalizing s now with
  | nil => exact h
  | cons event rest ih =>
    cases event with
    | resolve text => exact ih (hstep s now text h) now
    | advance duration => exact ih h (now + duration)

/-- What is seen of every resolution that starts from what every resolution keeps. -/
theorem log_forall {Q : Resolution → Prop} (hseen : ∀ s now text, P s → Q (v.resolution s now text))
    {s : σ} (h : P s) (now : Nat) (events : List ResolverEvent) :
    ∀ r ∈ v.log s now events, Q r := by
  induction events generalizing s now with
  | nil => simp [log]
  | cons event rest ih =>
    cases event with
    | resolve text =>
      intro r hr
      rcases List.mem_cons.1 hr with rfl | hrest
      · exact hseen s now text h
      · exact ih (hstep s now text h) now r hrest
    | advance duration => exact ih h (now + duration)

end ResolverView

/-! ### Resolvers that remember -/

/-- A resolver that remembers for `ttl` what it has read. The texts that it remembers at a time are
those that are `live`. -/
structure Remembers {σ : Type} (v : ResolverView σ) (live : σ → Nat → String → Prop)
    (ttl : σ → Nat) : Prop where
  ttl_resolve : ∀ s now text, ttl (v.resolve s now text).2 = ttl s
  count_of_live : ∀ {s now text}, live s now text → v.count (v.resolve s now text).2 = v.count s
  live_of_live : ∀ {s now text}, live s now text → ∀ {later}, now ≤ later → ∀ other,
    (live (v.resolve s now text).2 later other ↔ live s later other)
  count_of_not_live : ∀ {s now text}, ¬ live s now text →
    v.count (v.resolve s now text).2 = v.count s + 1
  live_of_not_live : ∀ {s now text}, ¬ live s now text → ∀ {later}, now ≤ later → ∀ other,
    (live (v.resolve s now text).2 later other ↔
      if other = text ∧ (v.resolve s now text).1 = true then later - now < ttl s
      else live s later other)

namespace Remembers

variable {σ : Type} {v : ResolverView σ} {live : σ → Nat → String → Prop} {ttl : σ → Nat}

/-- From now on exactly those texts are remembered that were read, each for `ttl`. -/
def Recorded (live : σ → Nat → String → Prop) (ttl : σ → Nat) (s : σ) (now : Nat)
    (past : List Resolution) : Prop :=
  ∀ later, now ≤ later → ∀ text, live s later text ↔ ReadWithin (ttl s) past text later

variable {s : σ} {now : Nat} {past : List Resolution}

theorem recorded_resolve (hv : Remembers v live ttl) (h : Recorded live ttl s now past)
    (text : String) :
    Recorded live ttl (v.resolve s now text).2 now (past ++ [v.resolution s now text]) := by
  intro later hlater other
  rw [hv.ttl_resolve, readWithin_concat, ← h later hlater other]
  by_cases hlive : live s now text
  · -- The count stays the same, so nothing is read.
    have hreads : ¬ (v.resolution s now text).Reads := by
      rintro ⟨hgrown, -⟩
      have hsame : v.count s < v.count (v.resolve s now text).2 := hgrown
      rw [hv.count_of_live hlive] at hsame
      exact Nat.lt_irrefl _ hsame
    rw [hv.live_of_live hlive hlater]
    simp [hreads]
  · have hreads : (v.resolution s now text).Reads ↔ (v.resolve s now text).1 = true := by
      have hgrown : v.count s < v.count (v.resolve s now text).2 := by
        rw [hv.count_of_not_live hlive]
        exact Nat.lt_succ_self _
      exact and_iff_right hgrown
    have htext : (v.resolution s now text).text = text := rfl
    have htime : (v.resolution s now text).time = now := rfl
    rw [hv.live_of_not_live hlive hlater, hreads, htext, htime]
    split
    · next hnew =>
      obtain ⟨rfl, hanswered⟩ := hnew
      have hgone : ¬ live s later other := by
        intro hlater'
        have hwithin := ((h later hlater other).1 hlater').of_le hlater
        exact hlive ((h now (Nat.le_refl now) other).2 hwithin)
      simp [hgone, hanswered]
    · next hother =>
      have hnone : ¬ (text = other ∧ (v.resolve s now text).1 = true ∧ later - now < ttl s) :=
        fun hnew => hother ⟨hnew.1.symm, hnew.2.1⟩
      simp [hnone]

/-- One resolution after what was resolved before. -/
theorem countsAfter_resolution (hv : Remembers v live ttl) (h : Recorded live ttl s now past)
    (text : String) : (v.resolution s now text).CountsAfter (ttl s) past := by
  have hlive := h now (Nat.le_refl now) text
  exact ⟨fun hread => hv.count_of_live (hlive.2 hread),
    fun hread => hv.count_of_not_live fun hnow => hread (hlive.1 hnow)⟩

/-- Every resolution of a run, whatever was resolved before the run. -/
theorem countsAfter_of_log (hv : Remembers v live ttl) (h : Recorded live ttl s now past)
    (events : List ResolverEvent) {earlier later : List Resolution} {r : Resolution}
    (hlog : v.log s now events = earlier ++ r :: later) :
    r.CountsAfter (ttl s) (past ++ earlier) := by
  induction events generalizing s now past earlier with
  | nil => simp [ResolverView.log] at hlog
  | cons event rest ih =>
    cases event with
    | advance duration =>
      have hlater : Recorded live ttl s (now + duration) past :=
        fun later hle => h later (Nat.le_trans (Nat.le_add_right now duration) hle)
      exact ih hlater hlog
    | resolve text =>
      rw [ResolverView.log] at hlog
      cases earlier with
      | nil =>
        obtain ⟨rfl, -⟩ := List.cons.inj hlog
        rw [List.append_nil]
        exact hv.countsAfter_resolution h text
      | cons first earlier =>
        obtain ⟨rfl, hrest⟩ := List.cons.inj hlog
        have hnext := ih (hv.recorded_resolve h text) hrest
        rwa [List.append_assoc, hv.ttl_resolve] at hnext

/-- A resolver that starts with nothing reads once in each window. -/
theorem oncePerWindow (hv : Remembers v live ttl) (hempty : ∀ time text, ¬ live s time text)
    (now : Nat) (events : List ResolverEvent) : OncePerWindow (ttl s) (v.log s now events) := by
  intro earlier r later hlog
  have hstart : Recorded live ttl s now [] := fun time _ text => by
    simp [hempty time text, ReadWithin]
  exact hv.countsAfter_of_log hstart events hlog

end Remembers

/-! ### Modules -/

namespace ModuleSources

/-- Every module source is answered. -/
def view : ResolverView ModuleSources where
  resolve s now source := (true, (s.resolve now source).value.2)
  count s := s.classifications

/-- A source that is not live is classified and written. -/
theorem value_resolve_snd (s : ModuleSources) (now : Nat) (source : String) :
    (s.resolve now source).value.2 =
      match s.cache.live? now source with
      | some _ => s
      | none => ⟨(s.cache.sweep now).write now source (ModuleSource.classify source),
          s.classifications + 1⟩ := by
  rw [resolve, Traced.value_bind, Cache.value_getOrInsert]
  cases s.cache.live? now source <;> rfl

theorem remembers : Remembers view (fun s time source => (s.cache.live? time source).isSome)
    (·.cache.ttl) := by
  constructor
  case ttl_resolve =>
    intro s now source
    show (s.resolve now source).value.2.cache.ttl = s.cache.ttl
    rw [value_resolve_snd]
    split <;> rfl
  case count_of_live =>
    intro s now source hlive
    obtain ⟨classified, hlive⟩ := Option.isSome_iff_exists.1 hlive
    show (s.resolve now source).value.2.classifications = s.classifications
    rw [value_resolve_snd, hlive]
  case live_of_live =>
    intro s now source hlive later _ other
    obtain ⟨classified, hlive⟩ := Option.isSome_iff_exists.1 hlive
    show ((s.resolve now source).value.2.cache.live? later other).isSome = true ↔ _
    rw [value_resolve_snd, hlive]
  case count_of_not_live =>
    intro s now source hlive
    show (s.resolve now source).value.2.classifications = s.classifications + 1
    rw [value_resolve_snd, Option.not_isSome_iff_eq_none.1 hlive]
  case live_of_not_live =>
    intro s now source hlive later hlater other
    show ((s.resolve now source).value.2.cache.live? later other).isSome = true ↔
      if other = source ∧ true = true then later - now < s.cache.ttl
      else (s.cache.live? later other).isSome = true
    have httl : (s.cache.sweep now).ttl = s.cache.ttl := rfl
    rw [value_resolve_snd, Option.not_isSome_iff_eq_none.1 hlive, Cache.live?_write, httl,
      Cache.live?_sweep _ hlater]
    by_cases hsame : other = source <;> by_cases hwindow : later - now < s.cache.ttl <;>
      simp [hsame, hwindow]

end ModuleSources

/-! ### Providers -/

namespace ProviderSources

/-- A provider address is answered if it can be read. -/
def view : ResolverView ProviderSources where
  resolve s now address := ((s.resolve now address).value.1.isOk, (s.resolve now address).value.2)
  count s := s.parses

section Resolve
variable {s : ProviderSources} {now : Nat} {address : String}

theorem view_resolve_of_live (h : (s.cache.live? now address).isSome = true) :
    view.resolve s now address = (true, ⟨(s.cache.get now address).value.2, s.parses⟩) := by
  obtain ⟨source, hlive⟩ := Option.isSome_iff_exists.1 h
  simp only [view, value_resolve, hlive]
  rfl

theorem view_resolve_of_error (h : s.cache.live? now address = none) {e : InvalidAddress}
    (hparse : ProviderAddress.parse address = .error e) :
    view.resolve s now address = (false, ⟨(s.cache.get now address).value.2, s.parses + 1⟩) := by
  simp only [view, value_resolve, h, hparse]
  rfl

theorem view_resolve_of_ok (h : s.cache.live? now address = none) {source : ProviderAddress}
    (hparse : ProviderAddress.parse address = .ok source) :
    view.resolve s now address =
      (true, ⟨(((s.cache.get now address).value.2).sweep now).write now address source,
        s.parses + 1⟩) := by
  simp only [view, value_resolve, h, hparse]
  rfl

end Resolve

/-- An address that is not live is looked up, read, and written if it can be. -/
theorem remembers : Remembers view (fun s time address => (s.cache.live? time address).isSome)
    (·.cache.ttl) := by
  constructor
  case ttl_resolve =>
    intro s now address
    show (s.resolve now address).value.2.cache.ttl = s.cache.ttl
    rw [value_resolve]
    split
    · exact s.cache.ttl_get now address
    · exact s.cache.ttl_get now address
    · exact s.cache.ttl_get now address
  case count_of_live =>
    intro s now address hlive
    rw [view_resolve_of_live hlive]
    rfl
  case live_of_live =>
    intro s now address hlive later hlater other
    rw [view_resolve_of_live hlive, Cache.live?_get _ hlater]
  case count_of_not_live =>
    intro s now address hlive
    have hnone := Option.not_isSome_iff_eq_none.1 hlive
    cases hparse : ProviderAddress.parse address with
    | error e => rw [view_resolve_of_error hnone hparse]; rfl
    | ok source => rw [view_resolve_of_ok hnone hparse]; rfl
  case live_of_not_live =>
    intro s now address hlive later hlater other
    have hnone := Option.not_isSome_iff_eq_none.1 hlive
    cases hparse : ProviderAddress.parse address with
    | error e =>
      rw [view_resolve_of_error hnone hparse, Cache.live?_get _ hlater]
      simp
    | ok source =>
      have httl : ((s.cache.get now address).value.2.sweep now).ttl = s.cache.ttl :=
        s.cache.ttl_get now address
      rw [view_resolve_of_ok hnone hparse, Cache.live?_write, httl, Cache.live?_sweep _ hlater,
        Cache.live?_get _ hlater]
      by_cases hsame : other = address <;> by_cases hwindow : later - now < s.cache.ttl <;>
        simp [hsame, hwindow]

/-- What is remembered faithfully holds no address that cannot be read. -/
theorem Faithful.not_stored {s : ProviderSources} (h : s.Faithful) {address : String}
    (hinvalid : (ProviderAddress.parse address).isOk = false) :
    address ∉ Keyed.keys s.cache.entries := by
  intro hmem
  obtain ⟨entry, hentry⟩ := Keyed.mem_keys_iff.1 hmem
  rw [h address entry hentry] at hinvalid
  cases hinvalid

theorem Faithful.answered_resolution {s : ProviderSources} (h : s.Faithful) (now : Nat)
    (address : String) :
    (view.resolution s now address).answered = (ProviderAddress.parse address).isOk := by
  show (s.resolve now address).value.1.isOk = _
  rw [value_resolve_fst, h.answer]

end ProviderSources

/-! ### Windows -/

/-- The count of a resolver that starts with nothing remembered grows by one for a text exactly if
the text was not read within the last `ttl`, whatever else is resolved in between and however time
goes on. So an address that cannot be read is tried every time, and it is never stored. -/
theorem reads_once_per_window (ttl : Nat) (noted : Bool) (start : Nat)
    (events : List ResolverEvent) :
    OncePerWindow ttl (ModuleSources.view.log (.empty ttl noted) start events) ∧
    OncePerWindow ttl (ProviderSources.view.log (.empty ttl noted) start events) ∧
    ∀ address, (ProviderAddress.parse address).isOk = false →
      (∀ r ∈ ProviderSources.view.log (.empty ttl noted) start events,
        r.text = address → r.countAfter = r.countBefore + 1) ∧
      address ∉ Keyed.keys
        (ProviderSources.view.after (.empty ttl noted) start events).cache.entries := by
  have hmodules := ModuleSources.remembers.oncePerWindow (s := .empty ttl noted)
    (fun _ _ h => by cases h) start events
  have hproviders := ProviderSources.remembers.oncePerWindow (s := .empty ttl noted)
    (fun _ _ h => by cases h) start events
  have hkeeps : ∀ (s : ProviderSources) (now : Nat) (text : String), s.Faithful →
      (ProviderSources.view.resolve s now text).2.Faithful :=
    fun s now text h => ProviderSources.faithful_resolve h now text
  have hfaithful := ProviderSources.faithful_empty ttl noted
  refine ⟨hmodules, hproviders, fun address hinvalid => ⟨fun r hr htext => ?_, ?_⟩⟩
  · obtain ⟨earlier, later, hlog⟩ := List.append_of_mem hr
    apply (hproviders earlier r later hlog).one
    rintro ⟨e, he, hsame, ⟨-, hanswered⟩, -⟩
    -- No resolution of such an address is answered with a source.
    have hparse : e.answered = (ProviderAddress.parse e.text).isOk :=
      ResolverView.log_forall hkeeps (Q := fun e => e.answered = (ProviderAddress.parse e.text).isOk)
        (fun s now text h => h.answered_resolution now text) hfaithful start events e
        (by simp [hlog, he])
    rw [hsame, htext, hinvalid, hanswered] at hparse
    cases hparse
  · exact (ResolverView.after_keeps hkeeps hfaithful start events).not_stored hinvalid

end InfraConfig
