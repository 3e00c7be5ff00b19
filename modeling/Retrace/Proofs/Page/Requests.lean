import Mathlib.Tactic.Lemma
import Retrace.Page.Basic
import Retrace.Proofs.Replay.Runs

/-!
What is asked of a page.

Four buttons and the slider ask for actions of the replay, and the picker asks for files.  All that
is done by a page is compared with what its events ask for in this sense.

* `Controls.Denotes`: the number that a text stands for;
* `PageEvent.Asks`, `PageEvent.Picks`: the action and the file that an event asks for;
* `PageEvent.Collected`: what is asked for by some events;
* `Report.ComesTo`: the replay and the file that some events lead to;
* `Controls.parseNumber_eq_some_iff`, `PageEvent.asks_iff`, `PageEvent.picks_iff`: the page reads
  texts, buttons and picks in this way;
* `Report.comesTo_iff`: the replay and the file, computed with what the page reads.
-/

namespace Retrace

/-! ### Numbers -/

/-- A text stands for a number: it consists of decimal digits, at least one and perhaps behind a
plus sign, and a word of the machine can hold their value. -/
structure Controls.Denotes (text : String) (n : Nat) : Prop where
  spelled : ∃ digits : List Char, digits ≠ [] ∧ (∀ c ∈ digits, c.isDigit) ∧
    Nat.ofDigitChars 10 digits 0 = n ∧ (text.toList = digits ∨ text.toList = '+' :: digits)
  fits : n < USize.size

namespace Controls

lemma digitsValue_eq_some_iff {digits : List Char} {n : Nat} :
    digitsValue digits = some n ↔
      digits ≠ [] ∧ (∀ c ∈ digits, c.isDigit) ∧ Nat.ofDigitChars 10 digits 0 = n := by
  cases digits with
  | nil => simp [digitsValue]
  | cons c digits =>
      have hvalue : (c :: digits).foldl (fun n c => n * 10 + (c.toNat - '0'.toNat)) 0
          = Nat.ofDigitChars 10 (c :: digits) 0 := by
        simp only [Nat.ofDigitChars, Nat.mul_comm 10]
      rw [digitsValue, hvalue]
      · simp
      · simp

/-- A number below the size of the shortest words has a text in each word size. -/
lemma denotes_of_lt {text : String} {digits : List Char} {n : Nat}
    (htext : text.toList = digits ∨ text.toList = '+' :: digits)
    (hvalue : digitsValue digits = some n) (hn : n < UInt32.size) : Denotes text n := by
  obtain ⟨hne, hdigits, hn'⟩ := digitsValue_eq_some_iff.1 hvalue
  exact ⟨⟨digits, hne, hdigits, hn', htext⟩, Nat.lt_of_lt_of_le hn USize.le_size⟩

/-- The page reads a text as the number that it stands for. -/
lemma parseNumber_eq_some_iff {text : String} {n : Nat} :
    parseNumber text = some n ↔ Denotes text n := by
  rw [parseNumber, Option.filter_eq_some_iff, digitsValue_eq_some_iff, decide_eq_true_eq]
  constructor
  · rintro ⟨⟨hne, hdigits, hvalue⟩, hfits⟩
    refine ⟨⟨_, hne, hdigits, hvalue, ?_⟩, hfits⟩
    split
    · case _ htext => exact .inr htext
    · exact .inl rfl
  · rintro ⟨⟨digits, hne, hdigits, hvalue, htext⟩, hfits⟩
    split
    · case _ rest hplus =>
        rcases htext with htext | htext
        · -- no digit is a plus sign
          have hsign := hdigits '+' (by rw [← htext, hplus]; exact List.mem_cons_self)
          cases hsign
        · obtain rfl := (List.cons.inj (htext.symm.trans hplus)).2
          exact ⟨⟨hne, hdigits, hvalue⟩, hfits⟩
    · case _ hplus =>
        rcases htext with htext | htext
        · rw [htext]
          exact ⟨⟨hne, hdigits, hvalue⟩, hfits⟩
        · exact absurd htext (hplus digits)

end Controls

/-! ### Events -/

namespace PageEvent

/-- An event asks for an action of the replay. -/
inductive Asks (mode : FullGraph) : PageEvent → Action → Prop
  | reset : Asks mode (.click "Reset") .reset
  | back : Asks mode (.click "Previous") .stepBack
  | forward : Asks mode (.click "Next") .stepForward
  | full : Asks mode (.click "Full graph") (.showFull mode)
  | step {text : String} {n : Nat} (h : Controls.Denotes text n) :
    Asks mode (.slide text) (.advanceTo n)

/-- An event picks the file at a place.  There is a picker if there are several files. -/
inductive Picks (sources : List SourceFile) : PageEvent → Nat → Prop
  | pick {text : String} {n : Nat} (hseveral : 1 < sources.length)
    (h : Controls.Denotes text n) : Picks sources (.pick text) n

/-- What some events ask for, one after the other.  An event that asks for nothing is passed
over. -/
inductive Collected {α : Type} (asks : PageEvent → α → Prop) : List PageEvent → List α → Prop
  | nil : Collected asks [] []
  | asked {x : PageEvent} {a : α} {events : List PageEvent} {as : List α} (h : asks x a)
    (hmore : Collected asks events as) : Collected asks (x :: events) (a :: as)
  | ignored {x : PageEvent} {events : List PageEvent} {as : List α} (h : ∀ a, ¬ asks x a)
    (hmore : Collected asks events as) : Collected asks (x :: events) as

/-- What is asked for can be collected with a function that reads it off the events. -/
lemma collected_iff {α : Type} {asks : PageEvent → α → Prop} {read : PageEvent → Option α}
    (hread : ∀ x a, asks x a ↔ read x = some a) {events : List PageEvent} {as : List α} :
    Collected asks events as ↔ as = events.filterMap read := by
  constructor
  · intro h
    induction h with
    | nil => rfl
    | asked h _ ih => rw [List.filterMap_cons_some ((hread _ _).1 h), ih]
    | @ignored x _ _ h _ ih =>
        have hnone : read x = none :=
          Option.eq_none_iff_forall_ne_some.2 fun a ha => h a ((hread x a).2 ha)
        rw [List.filterMap_cons_none hnone, ih]
  · rintro rfl
    induction events with
    | nil => exact .nil
    | cons x events ih =>
        cases hx : read x with
        | none =>
            rw [List.filterMap_cons_none hx]
            refine .ignored (fun a ha => ?_) ih
            rw [(hread x a).1 ha] at hx
            cases hx
        | some a =>
            rw [List.filterMap_cons_some hx]
            exact .asked ((hread x a).2 hx) ih

/-- The action that the page does for an event. -/
def action? (mode : FullGraph) : PageEvent → Option Action
  | .click button => Controls.buttonAction mode button
  | .slide value => (Controls.parseNumber value).map .advanceTo
  | .pick _ | .gesture _ | .frames _ | .windowResized | .elsewhere => none

/-- The place of the file that the page lists for an event. -/
def picked? (sources : List SourceFile) : PageEvent → Option Nat
  | .pick value => if 1 < sources.length then Controls.parseNumber value else none
  | .click _ | .slide _ | .gesture _ | .frames _ | .windowResized | .elsewhere => none

/-- Buttons and slider do what is asked for. -/
lemma asks_iff (mode : FullGraph) (x : PageEvent) (a : Action) :
    x.Asks mode a ↔ x.action? mode = some a := by
  constructor
  · intro h
    cases h with
    | reset | back | forward | full => rfl
    | step h => rw [action?, Controls.parseNumber_eq_some_iff.2 h, Option.map_some]
  · intro h
    cases x with
    | click button =>
        rw [action?, Controls.buttonAction.eq_def] at h
        split at h
        · cases h
          exact .reset
        · cases h
          exact .back
        · cases h
          exact .forward
        · cases h
          exact .full
        · cases h
    | slide value =>
        obtain ⟨n, hn, rfl⟩ := Option.map_eq_some_iff.1 h
        exact .step (Controls.parseNumber_eq_some_iff.1 hn)
    | pick _ | gesture _ | frames _ | windowResized | elsewhere => cases h

lemma not_asks {mode : FullGraph} {x : PageEvent} (h : x.action? mode = none) (a : Action) :
    ¬ x.Asks mode a := by
  rw [asks_iff, h]
  exact (Option.some_ne_none a).symm

/-- The picker lists what is asked for. -/
lemma picks_iff (sources : List SourceFile) (x : PageEvent) (n : Nat) :
    x.Picks sources n ↔ x.picked? sources = some n := by
  constructor
  · intro h
    cases h with
    | pick hseveral h => rw [picked?, if_pos hseveral, Controls.parseNumber_eq_some_iff.2 h]
  · intro h
    cases x with
    | pick value =>
        rw [picked?, Option.ite_none_right_eq_some] at h
        exact .pick h.1 (Controls.parseNumber_eq_some_iff.1 h.2)
    | click _ | slide _ | gesture _ | frames _ | windowResized | elsewhere => cases h

lemma not_picks {sources : List SourceFile} {x : PageEvent} (h : x.picked? sources = none)
    (n : Nat) : ¬ x.Picks sources n := by
  rw [picks_iff, h]
  exact (Option.some_ne_none n).symm

end PageEvent

/-! ### What events lead to -/

namespace Report

variable (r : Report)

/-- Some events lead the page of a report to an engine and to a file: the engine has taken the first
step and then the actions that have been asked for, and the file is the one picked last.  The first
file is listed until one is picked, and none if there is no file at the place picked. -/
structure ComesTo (events : List PageEvent) (e : Engine) (file? : Option SourceFile) : Prop where
  replay : ∃ actions, PageEvent.Collected (PageEvent.Asks r.settings.fullGraph) events actions ∧
    (Engine.ofGraph r.graph).run (.advanceTo r.settings.initialStep :: actions) = e
  listing : ∃ places, PageEvent.Collected (PageEvent.Picks r.sources) events places ∧
    r.sources[places.getLast?.getD 0]? = file?

/-- The replay of a report after some events on its page. -/
def engineAfter (events : List PageEvent) : Engine :=
  (Engine.ofGraph r.graph).run <| .advanceTo r.settings.initialStep ::
    events.filterMap (PageEvent.action? r.settings.fullGraph)

/-- The place of the file that is listed after some events. -/
def placeAfter (events : List PageEvent) : Nat :=
  (events.filterMap (PageEvent.picked? r.sources)).getLast?.getD 0

/-- Events lead to one engine and to one file at most, and these can be computed. -/
lemma comesTo_iff {events : List PageEvent} {e : Engine} {file? : Option SourceFile} :
    r.ComesTo events e file? ↔
      r.engineAfter events = e ∧ r.sources[r.placeAfter events]? = file? := by
  constructor
  · rintro ⟨⟨actions, hactions, he⟩, ⟨places, hplaces, hfile⟩⟩
    obtain rfl := (PageEvent.collected_iff (PageEvent.asks_iff _)).1 hactions
    obtain rfl := (PageEvent.collected_iff (PageEvent.picks_iff _)).1 hplaces
    exact ⟨he, hfile⟩
  · rintro ⟨he, hfile⟩
    exact ⟨⟨_, (PageEvent.collected_iff (PageEvent.asks_iff _)).2 rfl, he⟩,
      ⟨_, (PageEvent.collected_iff (PageEvent.picks_iff _)).2 rfl, hfile⟩⟩

lemma engineAfter_concat (events : List PageEvent) (x : PageEvent) :
    r.engineAfter (events ++ [x])
      = (r.engineAfter events).run (x.action? r.settings.fullGraph).toList := by
  rw [engineAfter, List.filterMap_append, ← List.cons_append, Engine.run_append, engineAfter]
  cases h : x.action? r.settings.fullGraph <;> simp [h]

lemma placeAfter_concat (events : List PageEvent) (x : PageEvent) :
    r.placeAfter (events ++ [x]) = (x.picked? r.sources).getD (r.placeAfter events) := by
  rw [placeAfter, List.filterMap_append]
  cases h : x.picked? r.sources <;> simp [h, placeAfter]

end Report

end Retrace
