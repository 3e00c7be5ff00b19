import Retrace.Proofs.Page.Sync

/-!
When the page scrolls.

The listing scrolls when the marked line has been set.  Every action sets it once, also to the line
that was marked before, and nothing else does; so whenever a step has been shown, the row of the
line that it marks is brought into view: once, if the listed file has such a line and the document
can be reached.

* `scrolled`: the elements that effects bring into view;
* `Browser.Seeks`: a line has to be brought into view; `Browser.BringsUp`: this is what happens;
* `Browser.bringsUp_scroll`: where the listing scrolls to;
* `Canvas.scrolled_mount` and its companions, `Viewer.scrolled_turn`: no other effect scrolls;
* `Engine.countP_setsMark_act`: an action sets the marked line once; `Viewer.scrollAfter_act`: and
  so the listing scrolls;
* `Page.scrolls_run`: the page of a report after any events.
-/

namespace Retrace

/-! ### Scrolls -/

/-- The element that an effect brings into view. -/
def Effect.scrolled? : Effect → Option String
  | .scrollIntoView id => some id
  | .canvasWidth _ | .canvasHeight _ | .preventDefault | .draw _ => none

/-- The elements that are brought into view, one after the other. -/
def scrolled (effects : List Effect) : List String := effects.filterMap Effect.scrolled?

lemma scrolled_append (xs ys : List Effect) : scrolled (xs ++ ys) = scrolled xs ++ scrolled ys :=
  List.filterMap_append

lemma scrolled_draws (draws : List Draw) : scrolled (draws.map .draw) = [] := by
  rw [scrolled, List.filterMap_map, List.filterMap_eq_nil_iff]
  intro draw _
  rfl

/-- The rows of different lines have different names. -/
lemma Listing.rowId_injective {m n : Nat} (h : rowId m = rowId n) : m = n := by
  simp only [rowId, toString] at h
  have hdigits : Nat.toDigits 10 m = Nat.toDigits 10 n := by
    rw [← Nat.toList_repr, ← Nat.toList_repr]
    exact congrArg String.toList (by simpa using h)
  calc
    m = Nat.ofDigitChars 10 (Nat.toDigits 10 m) 0 := Nat.ofDigitChars_ten_toDigits.symm
    _ = Nat.ofDigitChars 10 (Nat.toDigits 10 n) 0 := by rw [hdigits]
    _ = n := Nat.ofDigitChars_ten_toDigits

namespace Listing

lemma hasRow_iff {l : Listing} {line : Nat} :
    l.hasRow line ↔
      ∃ file, l.file? = some file ∧ ∃ content, (line, content) ∈ file.numberedLines := by
  rw [hasRow, rows]
  cases l.file? with
  | none => simp
  | some file => simp

end Listing

namespace Browser

/-- No element outside the viewer is named like a row of the listing. -/
def SparesRows (b : Browser) : Prop := ∀ line, b.hasElement (Listing.rowId line) = false

/-- A line has to be brought into view. -/
structure Seeks (b : Browser) (e : Engine) (file? : Option SourceFile) (line : UInt32) : Prop where
  /-- The step that is shown marks the line. -/
  marked : e.visual.markedLine = some line
  /-- There is a listed file, and it has a line with this number. -/
  listed : ∃ file, file? = some file ∧ ∃ content, (line.toNat, content) ∈ file.numberedLines
  window : b.window
  document : b.document

/-- The effects bring exactly what has to be there into view. -/
structure BringsUp (b : Browser) (e : Engine) (file? : Option SourceFile)
    (effects : List Effect) : Prop where
  /-- There is one scroll, to the row of a line, exactly if this line is sought. -/
  once : ∀ line, scrolled effects = [Listing.rowId line.toNat] ↔ b.Seeks e file? line
  /-- There is none if no line is. -/
  otherwise : (∀ line, ¬ b.Seeks e file? line) → scrolled effects = []

variable {b : Browser} {e : Engine} {l : Listing} {file? : Option SourceFile} {line : UInt32}

lemma Seeks.unique {other : UInt32} (h : b.Seeks e file? line) (hother : b.Seeks e file? other) :
    line = other :=
  Option.some.inj (h.marked.symm.trans hother.marked)

lemma bringsUp_of_seeks (h : b.Seeks e file? line) :
    b.BringsUp e file? [.scrollIntoView (Listing.rowId line.toNat)] where
  once other := by
    constructor
    · intro hother
      rwa [← UInt32.toNat_inj.mp (Listing.rowId_injective (List.singleton_inj.mp hother))]
    · intro hother
      rw [h.unique hother]
      rfl
  otherwise hnone := absurd h (hnone line)

lemma bringsUp_nil (h : ∀ line, ¬ b.Seeks e file? line) : b.BringsUp e file? [] where
  once line := ⟨fun hline => by (cases hline), fun hline => absurd hline (h line)⟩
  otherwise _ := rfl

/-- What is scrolled once a step has been shown. -/
lemma bringsUp_scroll (hb : b.SparesRows) :
    b.BringsUp e l.file? (Viewer.scroll b l e.visual.markedLine) := by
  cases hmark : e.visual.markedLine with
  | none => exact bringsUp_nil fun line h => nomatch h.marked.symm.trans hmark
  | some marked =>
      rw [Viewer.scroll, hb, Bool.false_or]
      by_cases h : b.Seeks e l.file? marked
      · have hfound : (b.reachable && l.hasRow marked.toNat) = true := by
          rw [Bool.and_eq_true, reachable, Bool.and_eq_true, Listing.hasRow_iff]
          exact ⟨⟨h.window, h.document⟩, h.listed⟩
        rw [if_pos hfound]
        exact bringsUp_of_seeks h
      · have hlost : ¬ (b.reachable && l.hasRow marked.toNat) = true := by
          rw [Bool.and_eq_true, reachable, Bool.and_eq_true, Listing.hasRow_iff]
          rintro ⟨⟨hwindow, hdocument⟩, hlisted⟩
          exact h ⟨hmark, hlisted, hwindow, hdocument⟩
        rw [if_neg hlost]
        refine bringsUp_nil fun line hline => h ?_
        rwa [← Option.some.inj (hline.marked.symm.trans hmark)]

lemma BringsUp.append {effects more : List Effect}
    (h : b.BringsUp e file? effects) (hmore : scrolled more = []) :
    b.BringsUp e file? (effects ++ more) := by
  have happend : scrolled (effects ++ more) = scrolled effects := by
    rw [scrolled_append, hmore, List.append_nil]
  exact ⟨by rw [happend]; exact h.once, by rw [happend]; exact h.otherwise⟩

end Browser

/-- A viewer that shows an engine scrolls to what the engine marks. -/
lemma Viewer.InSync.bringsUp {r : Report} {e : Engine} {selected : Nat} {v : Viewer}
    (h : v.InSync r e selected) {b : Browser} (hb : b.SparesRows) :
    b.BringsUp e r.sources[selected]? (scroll b v.listing v.display.markedLine) := by
  rw [h.listing, h.display]
  exact Browser.bringsUp_scroll (l := ⟨r.sources, selected⟩) hb

/-! ### The canvas does not scroll -/

namespace Canvas

variable {c : Canvas} {env : Surroundings} {v : Visual}

lemma scrolled_mount (options : CanvasOptions) (env : Surroundings) (d : Dataset) :
    scrolled (mount options env d).2.1 = [] := by
  rw [mount]
  split
  · dsimp only
    split <;> rfl
  · rfl

lemma scrolled_handle (g : Gesture) : scrolled (c.handle env v g).2 = [] := by
  cases g <;> rfl

lemma scrolled_windowResized : scrolled (c.windowResized env).2 = [] := by
  rw [windowResized]
  split
  · split <;> rfl
  · rfl

lemma scrolled_frame {after : Canvas} {effects : List Effect}
    (h : c.frame env v = .ok (after, effects)) : scrolled effects = [] := by
  rw [frame] at h
  split at h
  · cases h
    rfl
  · split at h
    · cases h
      rfl
    · split at h
      · cases h
      · cases h
        exact scrolled_draws _

lemma scrolled_frames {after : Canvas} {effects : List Effect} {n : Nat}
    (h : frames env v n c = .ok (after, effects)) : scrolled effects = [] := by
  fun_induction frames env v n c with
  | case1 c =>
      cases h
      rfl
  | case2 c => exact scrolled_frame h
  | case3 => cases h
  | case4 c n _ next effects hnext ih => exact ih h

end Canvas

/-! ### The page -/

/-- An action sets the marked line once, be it to what it was. -/
lemma Engine.countP_setsMark_act (e : Engine) (a : Action) :
    (e.act a).pushes.countP Push.setsMark = 1 := by
  rw [pushes_act]
  cases (e.act a).engine.visual.markedLine <;> rfl

namespace Viewer

/-- Mounting scrolls for the first step, and then the canvas is mounted. -/
lemma effects_mount (b : Browser) (r : Report) :
    (mount b r).2.1 = scroll b (mount b r).1.listing (mount b r).1.display.markedLine ++
      (Canvas.mount { showEdgeLabels := r.settings.showEdgeLabels } b.toSurroundings
        (Engine.ofGraph r.graph).dataset).2.1 := rfl

variable (v : Viewer) (b : Browser) (x : PageEvent)

/-- What the listing does about an action is to scroll. -/
lemma scrollAfter_act (a : Action) : (v.act a).viewer.scrollAfter b (v.act a).pushes
    = scroll b (v.act a).viewer.listing (v.act a).viewer.display.markedLine := by
  have hset : (v.engine.act a).pushes.any Push.setsMark = true := by
    rw [List.any_eq_true, ← List.countP_pos_iff, v.engine.countP_setsMark_act]
    exact Nat.one_pos
  exact if_pos hset

/-- An event that asks for an action of the replay leads to it. -/
lemma turn_of_action? {a : Action} (h : x.action? v.fullGraph = some a) : v.turn b x = v.act a := by
  obtain ⟨a', ha, hturn⟩ | ⟨hnone, -⟩ := v.turn_cases b x
  · rw [hturn, Option.some.inj (ha.symm.trans h)]
  · rw [hnone] at h
    cases h

/-- No event scrolls before the listing does. -/
lemma scrolled_turn : scrolled (v.turn b x).effects = [] := by
  obtain ⟨a, -, hturn⟩ | ⟨-, ⟨viewer, taken, hturn⟩ | ⟨g, hturn⟩ | ⟨n, hturn⟩ | hturn⟩ :=
    v.turn_cases b x <;> rw [hturn]
  · rfl
  · rfl
  · rw [gesture]
    split
    · exact Canvas.scrolled_handle g
    · cases g <;> rfl
  · rw [frames]
    split
    · split
      · case _ hframes => exact Canvas.scrolled_frames hframes
      · rfl
    · rfl
  · rw [windowResized]
    split
    · exact Canvas.scrolled_windowResized
    · rfl

end Viewer

namespace Page

/-- **The page scrolls exactly when a step marks a listed line**: when a report is mounted and at
each event that asks for an action of its replay, whatever has happened before, the row of the
marked line is brought into view, once, if there is such a row and the document can be reached.
Nothing else scrolls. -/
theorem scrolls_run (b₀ : Browser) (r : Report) :
    (b₀.SparesRows → ∀ e file?, r.ComesTo [] e file? →
      b₀.BringsUp e file? (home b₀ (some (.ok r))).2.1) ∧
    ∀ done b x,
      ((∃ a, x.Asks r.settings.fullGraph a) →
        ∀ e file?, r.ComesTo (done.map (·.2) ++ [x]) e file? →
          ((r.pageAfter b₀ done).respond b x).fault = none ∧
          ((r.pageAfter b₀ done).respond b x).page.Shows e file? ∧
          (b.SparesRows → b.BringsUp e file? ((r.pageAfter b₀ done).respond b x).effects)) ∧
      ((∀ a, ¬ x.Asks r.settings.fullGraph a) →
        scrolled ((r.pageAfter b₀ done).respond b x).effects = []) := by
  refine ⟨fun hb e file? h => ?_, fun done b x => ⟨?_, fun hnone => ?_⟩⟩
  · obtain ⟨rfl, rfl⟩ := r.comesTo_iff.1 h
    rw [home, Option.getD_some, Viewer.effects_mount]
    exact ((Viewer.inSync_mount b₀ r).bringsUp hb).append (Canvas.scrolled_mount _ _ _)
  · rintro ⟨a, ha⟩ e file? h
    obtain ⟨rfl, rfl⟩ := r.comesTo_iff.1 h
    have hsync := r.inSync_pageAfter b₀ done
    have hturn := Viewer.turn_of_action? _ b x (hsync.fullGraph ▸ (PageEvent.asks_iff _ x a).1 ha)
    have hnext := hsync.turn b x
    rw [← r.engineAfter_concat, ← r.placeAfter_concat] at hnext
    rw [r.pageAfter_eq, respond]
    refine ⟨?_, shows_of_inSync hnext, fun hb => ?_⟩
    · rw [hturn]
      rfl
    · rw [hturn] at hnext ⊢
      rw [Viewer.scrollAfter_act]
      exact hnext.bringsUp hb
  · have hsync := r.inSync_pageAfter b₀ done
    have hignored : x.action? r.settings.fullGraph = none :=
      Option.eq_none_iff_forall_ne_some.2 fun a ha => hnone a ((PageEvent.asks_iff _ x a).2 ha)
    rw [r.pageAfter_eq, respond_viewer (hsync.fullGraph ▸ hignored)]
    exact Viewer.scrolled_turn _ b x

/-- A browser with nothing around the page, which shows no canvas. -/
def bare : Browser where
  window := true
  document := true
  mounted := false
  drawable := false
  inner := (none, none)
  parent := none
  corner := (0, 0)
  elements := []

/-- A report whose last step, the one shown first, marks the second line of its file. -/
def marking : Report where
  graph := {
    nodes := [⟨0, "", .plain, 0, none, false⟩, ⟨1, "", .plain, 1, none, false⟩]
    edges := [⟨0, 1, "", 2⟩] }
  sources := [⟨"main.c", "int x;\nx = 1;"⟩]
  settings := { initialStep := 1 }

/-- A frame, which stops a canvas with a node joined to itself, and then a step. -/
def stepped : List (Browser × PageEvent) := [(drawing, .frames 1), (drawing, .slide "+1")]

/-- A line is brought into view when its report is mounted.  After the canvas has been stopped it is
brought into view by a step that leaves it marked, but neither by one that marks no line, nor by a
text without a number or a pick, nor by any step once a file without such a line is listed. -/
theorem scrolls_marking :
    scrolled (home bare (some (.ok marking))).2.1 = ["source-2"] ∧
    scrolled ((looping.pageAfter drawing stepped).respond drawing (.click "Next")).effects
      = ["source-2"] ∧
    scrolled ((looping.pageAfter drawing stepped).respond drawing (.click "Reset")).effects = [] ∧
    scrolled ((looping.pageAfter drawing stepped).respond drawing (.slide "1x")).effects = [] ∧
    scrolled ((looping.pageAfter drawing stepped).respond drawing (.pick "1")).effects = [] ∧
    scrolled ((looping.pageAfter drawing (stepped ++ [(drawing, .pick "1")])).respond drawing
      (.slide "+1")).effects = [] := by
  have hbare : bare.SparesRows := fun _ => rfl
  have hdrawing : drawing.SparesRows := fun _ => rfl
  have hlisted : ∃ content, ((2 : UInt32).toNat, content) ∈
      SourceFile.numberedLines ⟨"main.c", "int x;\nx = 1;"⟩ := ⟨"x = 1;", by decide⟩
  have hone : Controls.Denotes "1" 1 := Controls.denotes_of_lt (.inl rfl) (by decide) (by decide)
  have hplus : Controls.Denotes "+1" 1 := Controls.denotes_of_lt (.inr rfl) (by decide) (by decide)
  have hmarking : marking.ComesTo [] ((Engine.ofGraph marking.graph).run [.advanceTo 1])
      (some ⟨"main.c", "int x;\nx = 1;"⟩) := ⟨⟨_, .nil, rfl⟩, ⟨_, .nil, rfl⟩⟩
  have hclick : ∀ button a, (PageEvent.click button).Asks .replay a →
      looping.ComesTo (stepped.map (·.2) ++ [.click button])
        ((Engine.ofGraph looping.graph).run [.advanceTo 0, .advanceTo 1, a])
        (some ⟨"main.c", "int x;\nx = 1;"⟩) := fun button a h =>
    ⟨⟨_, .ignored (PageEvent.not_asks rfl) <| .asked (.step hplus) <| .asked h .nil, rfl⟩,
      ⟨[], .ignored (PageEvent.not_picks rfl) <| .ignored (PageEvent.not_picks rfl) <|
        .ignored (PageEvent.not_picks rfl) .nil, rfl⟩⟩
  have hpick : looping.ComesTo
      ((stepped ++ [(drawing, PageEvent.pick "1")]).map (·.2) ++ [.slide "+1"])
      ((Engine.ofGraph looping.graph).run [.advanceTo 0, .advanceTo 1, .advanceTo 1])
      (some ⟨"short.c", "int y;"⟩) :=
    ⟨⟨_, .ignored (PageEvent.not_asks rfl) <| .asked (.step hplus) <|
        .ignored (PageEvent.not_asks rfl) <| .asked (.step hplus) .nil, rfl⟩,
      ⟨[1], .ignored (PageEvent.not_picks rfl) <| .ignored (PageEvent.not_picks rfl) <|
        .asked (.pick (by decide) hone) <| .ignored (PageEvent.not_picks rfl) .nil, rfl⟩⟩
  have hevents := (scrolls_run drawing looping).2
  refine ⟨?_, ?_, ?_, (hevents _ _ _).2 (PageEvent.not_asks rfl),
    (hevents _ _ _).2 (PageEvent.not_asks rfl), ?_⟩
  · have hmount := (scrolls_run bare marking).1 hbare _ _ hmarking
    exact (hmount.once 2).mpr ⟨by cbv, ⟨_, rfl, hlisted⟩, rfl, rfl⟩
  · obtain ⟨-, -, hnext⟩ := (hevents stepped drawing _).1 ⟨_, .forward⟩ _ _ (hclick _ _ .forward)
    exact ((hnext hdrawing).once 2).mpr ⟨by cbv, ⟨_, rfl, hlisted⟩, rfl, rfl⟩
  · obtain ⟨-, -, hreset⟩ := (hevents stepped drawing _).1 ⟨_, .reset⟩ _ _ (hclick _ _ .reset)
    have hmark : ((Engine.ofGraph looping.graph).run
        [.advanceTo 0, .advanceTo 1, .reset]).visual.markedLine = none := by
      cbv
    exact (hreset hdrawing).otherwise fun line h =>
      absurd (h.marked.symm.trans hmark) (Option.some_ne_none line)
  · obtain ⟨-, -, hslide⟩ := (hevents (stepped ++ [(drawing, .pick "1")]) drawing _).1
      ⟨_, .step hplus⟩ _ _ hpick
    have hmark : ((Engine.ofGraph looping.graph).run
        [.advanceTo 0, .advanceTo 1, .advanceTo 1]).visual.markedLine = some 2 := by
      cbv
    have hlines : SourceFile.numberedLines ⟨"short.c", "int y;"⟩ = [(1, "int y;")] := by decide
    refine (hslide hdrawing).otherwise fun line h => ?_
    obtain ⟨file, hfile, content, hcontent⟩ := h.listed
    obtain rfl := Option.some.inj (h.marked.symm.trans hmark)
    obtain rfl := Option.some.inj hfile
    rw [hlines, List.mem_singleton] at hcontent
    exact absurd (Prod.mk.inj hcontent).1 (by decide)

end Page

end Retrace
