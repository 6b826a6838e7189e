import Mathlib.Data.List.TakeWhile
import TemplateRouter.Proofs.CommandLine.Events
/-
The command line as a grammar: which words stand for a command, and which commands there are words
for.
-/
namespace TemplateRouter

/-- Commands that name no empty directory and do not ask to watch while they look given paths up. -/
inductive Command.Admissible : Command → Prop where
  | routes {handlers : Option String} {json : Bool} :
      handlers ≠ some "" →
      Admissible (.routes handlers json)
  | lookUp {handlers : Option String} {watch : Bool} {paths : List String} :
      handlers ≠ some "" →
      (watch = true → paths = []) →
      Admissible (.lookUp handlers watch paths)

namespace CommandLine

/-- The words that name a directory, if any. One that begins with a hyphen is joined to its
option. -/
inductive HandlersWords : Option String → List String → Prop where
  | absent : HandlersWords none []
  | joined {dir : String} : dir ≠ "" → HandlersWords (some dir) ["--handlers=" ++ dir]
  | apart {dir : String} : dir ≠ "" → dir.toList.head? ≠ some '-' →
      HandlersWords (some dir) ["--handlers", dir]

inductive SwitchWords (name : String) : Bool → List String → Prop where
  | off : SwitchWords name false []
  | on : SwitchWords name true ["--" ++ name]

/-- The options of a command, in either order. -/
inductive OptionWords (name : String) (handlers : Option String) (switch : Bool) :
    List String → Prop where
  | handlersFirst {hs ss : List String} : HandlersWords handlers hs → SwitchWords name switch ss →
      OptionWords name handlers switch (hs ++ ss)
  | switchFirst {hs ss : List String} : HandlersWords handlers hs → SwitchWords name switch ss →
      OptionWords name handlers switch (ss ++ hs)

/-- The words for a command. Whatever stands behind the separator is a path. -/
inductive Renders : Command → List String → Prop where
  | routes {handlers : Option String} {json : Bool} {options : List String} :
      OptionWords "json" handlers json options →
      Renders (.routes handlers json) ("routes" :: options)
  | lookUp {handlers : Option String} {watch : Bool} {options paths : List String} :
      OptionWords "watch" handlers watch options →
      (watch = true → paths = []) →
      Renders (.lookUp handlers watch paths) ("match" :: (options ++ "--" :: paths))

namespace Word

theorem ofChars_option {cs : List Char} (h : cs ≠ []) :
    ofChars ('-' :: '-' :: cs) = .long (cs.takeWhile (· != '='))
      (if (cs.takeWhile (· != '=')).length = cs.length then none
        else some (cs.drop ((cs.takeWhile (· != '=')).length + 1))) := by
  cases cs with
  | nil => exact absurd rfl h
  | cons c cs => rfl

theorem ofChars_long {name : List Char} (hne : name ≠ []) (h : '=' ∉ name) :
    ofChars ('-' :: '-' :: name) = .long name none := by
  have htake : name.takeWhile (· != '=') = name := by
    rw [List.takeWhile_eq_self_iff]
    intro c hc
    exact bne_iff_ne.mpr fun heq => h (heq ▸ hc)
  rw [ofChars_option hne, htake, if_pos rfl]

theorem ofChars_joined {name : List Char} (h : '=' ∉ name) (value : List Char) :
    ofChars ('-' :: '-' :: (name ++ '=' :: value)) = .long name (some value) := by
  have htake : (name ++ '=' :: value).takeWhile (· != '=') = name := by
    rw [List.takeWhile_append_of_pos, List.takeWhile_cons_of_neg (by decide), List.append_nil]
    intro c hc
    exact bne_iff_ne.mpr fun heq => h (heq ▸ hc)
  have hlength : ¬ name.length = (name ++ '=' :: value).length := by simp
  rw [ofChars_option (by simp), htake, if_neg hlength]
  simp

theorem ofChars_plain {cs : List Char} (h : cs.head? ≠ some '-') : ofChars cs = .plain := by
  cases cs with
  | nil => rfl
  | cons c cs =>
    have hc : c ≠ '-' := fun heq => h (congrArg some heq)
    unfold ofChars
    split <;> simp_all

end Word

/-- The switch of a grammar goes by a name that no other option has. -/
structure Grammar.HasSwitch (g : Grammar) (name : String) : Prop where
  switch_eq : g.switch = name.toList
  ne_nil : name.toList ≠ []
  ne_handlers : name.toList ≠ "handlers".toList
  not_mem : '=' ∉ name.toList

theorem Grammar.hasSwitch_routes : Grammar.routes.HasSwitch "json" :=
  ⟨rfl, by decide, by decide, by decide⟩

theorem Grammar.hasSwitch_lookUp : Grammar.lookUp.HasSwitch "watch" :=
  ⟨rfl, by decide, by decide, by decide⟩

variable {g : Grammar} {name : String} {handlers : Option String} {switch : Bool}

section Step

variable (d : Draft) (p : Pending) (rest : List String)

theorem read_joined (g : Grammar) (dir : String) :
    g.read d p (("--handlers=" ++ dir) :: rest) =
      (d.settle p).bind fun d => (d.setHandlers dir).bind fun d => g.read d .nothing rest := by
  have hname : '=' ∉ "handlers".toList := by decide
  have hword : Word.ofChars ("--handlers=" ++ dir).toList =
      .long "handlers".toList (some dir.toList) := by
    rw [String.toList_append]
    exact Word.ofChars_joined hname dir.toList
  rw [Grammar.read, hword]
  dsimp only
  rw [if_pos rfl, String.ofList_toList]

theorem read_apart (g : Grammar) {dir : String} (h : dir.toList.head? ≠ some '-') :
    g.read d p ("--handlers" :: dir :: rest) =
      (d.settle p).bind fun d => g.read d (.holding dir) rest := by
  have hname : '=' ∉ "handlers".toList := by decide
  have hword : Word.ofChars "--handlers".toList = .long "handlers".toList none :=
    Word.ofChars_long (by decide) hname
  rw [Grammar.read, hword]
  dsimp only
  rw [if_pos rfl]
  simp only [Grammar.read, Word.ofChars_plain h, if_true]

theorem read_switch (h : g.HasSwitch name) :
    g.read d p (("--" ++ name) :: rest) =
      (d.settle p).bind fun d => d.setSwitch.bind fun d => g.read d .nothing rest := by
  have hword : Word.ofChars ("--" ++ name).toList = .long name.toList none := by
    rw [String.toList_append]
    exact Word.ofChars_long h.ne_nil h.not_mem
  rw [Grammar.read, hword]
  dsimp only
  rw [if_neg h.ne_handlers, if_pos h.switch_eq.symm]
  rfl

theorem read_separator (h : rest = [] ∨ g.takesPaths = true) :
    g.read d p ("--" :: rest) = (d.settle p).bind fun d => (d.addPaths rest).finish := by
  have hword : Word.ofChars "--".toList = .separator := rfl
  rw [Grammar.read, hword]
  dsimp only
  rw [if_pos (by simpa using h)]

end Step

/-- Words that take a reading from some settled values to others, however it goes on. -/
def Grammar.Takes (g : Grammar) (words : List String) (before after : Draft) : Prop :=
  ∀ d p, d.settle p = .ok before →
    ∃ d' p', d'.settle p' = .ok after ∧ ∀ rest, g.read d p (words ++ rest) = g.read d' p' rest

namespace Grammar.Takes

theorem nil (d : Draft) : g.Takes [] d d :=
  fun d₁ p₁ hsettle => ⟨d₁, p₁, hsettle, fun _ => rfl⟩

theorem append {words words' : List String} {d₁ d₂ d₃ : Draft} (h : g.Takes words d₁ d₂)
    (h' : g.Takes words' d₂ d₃) : g.Takes (words ++ words') d₁ d₃ := by
  intro d p hsettle
  obtain ⟨d', p', hsettle', hread⟩ := h d p hsettle
  obtain ⟨d'', p'', hsettle'', hread'⟩ := h' d' p' hsettle'
  refine ⟨d'', p'', hsettle'', fun rest => ?_⟩
  rw [List.append_assoc, hread, hread']

theorem of_handlersWords {words : List String} (h : HandlersWords handlers words) (switch : Bool) :
    g.Takes words ⟨none, switch, []⟩ ⟨handlers, switch, []⟩ := by
  cases h with
  | absent => exact nil _
  | @joined dir hne =>
    have hset : (⟨none, switch, []⟩ : Draft).setHandlers dir = .ok ⟨some dir, switch, []⟩ := by
      simp [Draft.setHandlers, hne]
    intro d p hsettle
    refine ⟨_, .nothing, rfl, fun rest => ?_⟩
    rw [List.singleton_append, read_joined, hsettle, Except.bind, hset, Except.bind]
  | @apart dir hne hplain =>
    have hset : (⟨none, switch, []⟩ : Draft).setHandlers dir = .ok ⟨some dir, switch, []⟩ := by
      simp [Draft.setHandlers, hne]
    intro d p hsettle
    refine ⟨⟨none, switch, []⟩, .holding dir, hset, fun rest => ?_⟩
    rw [List.cons_append, List.singleton_append, read_apart _ _ _ _ hplain, hsettle, Except.bind]

theorem of_switchWords (h : g.HasSwitch name) {words : List String}
    (hwords : SwitchWords name switch words) (handlers : Option String) :
    g.Takes words ⟨handlers, false, []⟩ ⟨handlers, switch, []⟩ := by
  cases hwords with
  | off => exact nil _
  | on =>
    intro d p hsettle
    refine ⟨_, .nothing, rfl, fun rest => ?_⟩
    rw [List.singleton_append, read_switch d p rest h, hsettle]
    rfl

theorem of_optionWords (h : g.HasSwitch name) {words : List String}
    (hwords : OptionWords name handlers switch words) :
    g.Takes words {} ⟨handlers, switch, []⟩ := by
  cases hwords with
  | handlersFirst hhandlers hswitch =>
    exact (of_handlersWords hhandlers _).append (of_switchWords h hswitch _)
  | switchFirst hhandlers hswitch =>
    exact (of_switchWords h hswitch _).append (of_handlersWords hhandlers _)

end Grammar.Takes

theorem parse_of_renders {c : Command} {words : List String} (h : Renders c words) :
    parse words = .ok c := by
  cases h with
  | @routes handlers json options hoptions =>
    obtain ⟨d, p, hsettle, hread⟩ :=
      Grammar.Takes.of_optionWords Grammar.hasSwitch_routes hoptions {} .nothing rfl
    have hwords := hread []
    rw [List.append_nil] at hwords
    rw [parse, hwords, Grammar.read, hsettle, Except.bind, Draft.finish]
    simp [Except.map]
  | @lookUp handlers watch options paths hoptions hpaths =>
    obtain ⟨d, p, hsettle, hread⟩ :=
      Grammar.Takes.of_optionWords Grammar.hasSwitch_lookUp hoptions {} .nothing rfl
    have hfinish : (⟨handlers, watch, paths⟩ : Draft).finish = .ok ⟨handlers, watch, paths⟩ := by
      simpa [Draft.finish] using hpaths
    rw [parse, hread, read_separator d p paths (.inr rfl), hsettle, Except.bind, Draft.addPaths,
      List.nil_append, hfinish]
    rfl

theorem Renders.unique {c c' : Command} {words : List String} (h : Renders c words)
    (h' : Renders c' words) : c = c' := by
  have hparse := parse_of_renders h
  rw [parse_of_renders h', Except.ok.injEq] at hparse
  exact hparse.symm

theorem exists_renders {c : Command} (h : c.Admissible) : ∃ words, Renders c words := by
  have hoptions : ∀ (name : String) (handlers : Option String) (switch : Bool),
      handlers ≠ some "" → ∃ options, OptionWords name handlers switch options := by
    intro name handlers switch hhandlers
    have hdir : ∃ hs, HandlersWords handlers hs := by
      cases handlers with
      | none => exact ⟨_, .absent⟩
      | some dir => exact ⟨_, .joined fun hdir => hhandlers (congrArg some hdir)⟩
    have hswitch : ∃ ss, SwitchWords name switch ss := by
      cases switch with
      | false => exact ⟨_, .off⟩
      | true => exact ⟨_, .on⟩
    obtain ⟨hs, hhs⟩ := hdir
    obtain ⟨ss, hss⟩ := hswitch
    exact ⟨_, .handlersFirst hhs hss⟩
  cases h with
  | @routes handlers json hhandlers =>
    obtain ⟨options, hwords⟩ := hoptions "json" handlers json hhandlers
    exact ⟨_, .routes hwords⟩
  | @lookUp handlers watch paths hhandlers hpaths =>
    obtain ⟨options, hwords⟩ := hoptions "watch" handlers watch hhandlers
    exact ⟨_, .lookUp hwords hpaths⟩

theorem bind_eq_ok_iff {ε α β : Type} {x : Except ε α} {f : α → Except ε β} {b : β} :
    x.bind f = .ok b ↔ ∃ a, x = .ok a ∧ f a = .ok b := by
  cases x <;> simp [Except.bind]

theorem map_eq_ok_iff {ε α β : Type} {x : Except ε α} {f : α → β} {b : β} :
    x.map f = .ok b ↔ ∃ a, x = .ok a ∧ f a = b := by
  cases x <;> simp [Except.map]

namespace Draft

variable {d d' : Draft} {p : Pending}

/-- What every reading keeps to: no directory is empty. -/
def Named (d : Draft) : Prop := d.handlers ≠ some ""

theorem Named.addPaths (hd : d.Named) (paths : List String) : (d.addPaths paths).Named := hd

theorem named_of_setHandlers {dir : String} (h : d.setHandlers dir = .ok d') : d'.Named := by
  rw [setHandlers] at h
  split at h
  · cases h
  · split at h
    · cases h
    · next hdir =>
      rw [Except.ok.injEq] at h
      subst h
      intro heq
      rw [Option.some.injEq] at heq
      exact hdir (by rw [heq]; rfl)

theorem Named.setSwitch (hd : d.Named) (h : d.setSwitch = .ok d') : d'.Named := by
  rw [Draft.setSwitch] at h
  split at h
  · cases h
  · rw [Except.ok.injEq] at h
    subst h
    exact hd

theorem Named.settle (hd : d.Named) (h : d.settle p = .ok d') : d'.Named := by
  cases p with
  | nothing =>
    rw [Draft.settle, Except.ok.injEq] at h
    rwa [← h]
  | wanting => cases h
  | holding dir => exact named_of_setHandlers h

theorem finish_eq_ok_iff :
    d.finish = .ok d' ↔ d = d' ∧ (d.switch = true → d.paths = []) := by
  rw [finish]
  split <;> simp_all

/-- A reading that comes to its end leaves no conflict. -/
structure Settled (d : Draft) : Prop where
  named : d.Named
  paths_eq : d.switch = true → d.paths = []

theorem Named.finish (hd : d.Named) (h : d.finish = .ok d') : d'.Settled := by
  obtain ⟨rfl, hpaths⟩ := finish_eq_ok_iff.mp h
  exact ⟨hd, hpaths⟩

end Draft

theorem Grammar.settled_of_read {words : List String} {d d' : Draft} {p : Pending} (hd : d.Named)
    (h : g.read d p words = .ok d') : d'.Settled := by
  induction words generalizing d p with
  | nil =>
    rw [Grammar.read, bind_eq_ok_iff] at h
    obtain ⟨d₁, hsettle, hfinish⟩ := h
    exact (hd.settle hsettle).finish hfinish
  | cons word rest ih =>
    rw [Grammar.read] at h
    split at h
    · split at h
      · obtain ⟨d₁, hsettle, hfinish⟩ := bind_eq_ok_iff.mp h
        exact ((hd.settle hsettle).addPaths rest).finish hfinish
      · cases h
    · split at h
      · obtain ⟨d₁, hsettle, hvalue⟩ := bind_eq_ok_iff.mp h
        split at hvalue
        · obtain ⟨d₂, hset, hread⟩ := bind_eq_ok_iff.mp hvalue
          exact ih (Draft.named_of_setHandlers hset) hread
        · exact ih (hd.settle hsettle) hvalue
      · split at h
        · split at h
          · cases h
          · obtain ⟨d₁, hsettle, hswitch⟩ := bind_eq_ok_iff.mp h
            obtain ⟨d₂, hset, hread⟩ := bind_eq_ok_iff.mp hswitch
            exact ih ((hd.settle hsettle).setSwitch hset) hread
        · -- Help is no command.
          split at h
          · split at h
            · cases h
            · obtain ⟨_, _, hhelp⟩ := bind_eq_ok_iff.mp h
              cases hhelp
          · cases h
    · split at h
      · obtain ⟨_, _, hhelp⟩ := bind_eq_ok_iff.mp h
        cases hhelp
      · cases h
    · split at h
      · exact ih hd h
      · split at h
        · obtain ⟨d₁, hsettle, hread⟩ := bind_eq_ok_iff.mp h
          exact ih ((hd.settle hsettle).addPaths [word]) hread
        · cases h

theorem admissible_of_parse {c : Command} {words : List String} (h : parse words = .ok c) :
    c.Admissible := by
  have hnamed : ({} : Draft).Named := nofun
  unfold parse at h
  split at h
  · cases h
  · obtain ⟨d, hread, rfl⟩ := map_eq_ok_iff.mp h
    exact .routes (Grammar.settled_of_read hnamed hread).named
  · obtain ⟨d, hread, rfl⟩ := map_eq_ok_iff.mp h
    have hsettled := Grammar.settled_of_read hnamed hread
    exact .lookUp hsettled.named hsettled.paths_eq
  · cases h
  · cases h

/-- The grammar is complete and unambiguous: every command that can be meant has words, its words
stand for it alone, and no words stand for any other command. No words make a command watch that
has paths of its own. -/
theorem grammar_complete :
    (∀ c words, Renders c words → parse words = .ok c) ∧
    (∀ c, c.Admissible → ∃ words, Renders c words) ∧
    (∀ words c, parse words = .ok c → c.Admissible) ∧
    (∀ words handlers watch paths, parse words = .ok (.lookUp handlers watch paths) →
      watch = false ∨ paths = []) ∧
    ∀ [Regex.Engine] (c : Command) s dir, .watchStarted dir ∈ (c.run s).events →
      ∃ handlers watch, c = .lookUp handlers watch [] := by
  refine ⟨fun _ _ => parse_of_renders, fun _ => exists_renders, fun _ _ => admissible_of_parse,
    ?_, ?_⟩
  · intro words handlers watch paths h
    cases admissible_of_parse h with
    | lookUp _ hpaths =>
      cases watch with
      | false => exact .inl rfl
      | true => exact .inr (hpaths rfl)
  · intro _ c s dir hstarted
    exact Command.lookUp_of_watches (Command.watches_of_started hstarted)

/-- With a directory and with paths that look like options and commands. -/
theorem grammar_complete_hyphens :
    parse ["match", "--handlers=-x", "--", "--watch", "", "-", "routes"] =
      .ok (.lookUp (some "-x") false ["--watch", "", "-", "routes"]) := by
  have hhandlers : HandlersWords (some "-x") ["--handlers=" ++ "-x"] := .joined (by decide)
  obtain ⟨hrenders, -⟩ := grammar_complete
  exact hrenders _ _ (.lookUp (.handlersFirst hhandlers .off) nofun)

example : parse ["match", "/a", "--watch"] = .error .conflict := by decide

end CommandLine

end TemplateRouter
