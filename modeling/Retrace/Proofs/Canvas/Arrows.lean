import Retrace.Proofs.Canvas.Figures
import Retrace.Proofs.Replay.Grounded
import Retrace.Proofs.Scene.Evolution

/-!
The arrows of a picture.

A scene holds fewer links than its dataset has edges, since an edge that leads nowhere has no link,
and a replay may show such an edge; so the scene and the replay decide together what is painted.
Since links keep the numbers of their edges, the two agree on which edge is meant.

* `Arrow`, `Arrow.Faithful`: an arrow, and what makes it that of its edge;
* `Scene.exists_arrows`: links have their arrows; `Scene.filterMap_spanOf?`: those that are painted;
* `Scene.paints_of_mem_shownNodes`: a particle that is shown is painted;
* `Scene.arrows_paintLinks`: which arrows are painted, whatever the engine and the scene went
  through; none of them dangles.
-/

namespace Retrace

/-- An arrow of the picture. -/
structure Arrow where
  link : Link
  edge : Edge
  tail : Particle
  head : Particle

/-- The arrow is long enough to be painted. -/
def Arrow.long (a : Arrow) : Bool := ¬ a.tail.distance a.head < 0.001

lemma Arrow.long_iff {a : Arrow} : a.long = true ↔ ¬ a.tail.distance a.head < 0.001 :=
  decide_eq_true_iff

/-- The arrow belongs to its edge: it joins the particles of the first nodes with the indices of the
ends. -/
structure Arrow.Faithful (d : Dataset) (s : Scene) (a : Arrow) : Prop where
  edge : d.edges[a.link.id]? = some a.edge
  label : a.link.label = a.edge.label
  source : Scene.numberOf? d a.edge.source = some a.link.source
  target : Scene.numberOf? d a.edge.target = some a.link.target
  tail : s.particles[a.link.source]? = some a.tail
  head : s.particles[a.link.target]? = some a.head
  tail_id : a.tail.info.id = a.edge.source
  head_id : a.head.info.id = a.edge.target

namespace Scene

variable {d : Dataset} {s : Scene} {v : Visual}

/-! ### The arrows of links -/

/-- The particles at the ends of the link are too close for an arrow. -/
def Short (s : Scene) (l : Link) : Prop :=
  ∃ a b, s.particles[l.source]? = some a ∧ s.particles[l.target]? = some b ∧ a.distance b < 0.001

lemma exists_faithful (h : s.StandsFor d) {l : Link} (hl : l ∈ s.links) :
    ∃ a : Arrow, a.link = l ∧ a.Faithful d s := by
  rw [h.links] at hl
  obtain ⟨e, he, hsource, htarget, hlabel⟩ := mem_linksOf_iff.1 hl
  obtain ⟨n, hn, hnid⟩ := node_of_numberOf? hsource
  obtain ⟨m, hm, hmid⟩ := node_of_numberOf? htarget
  obtain ⟨tail, htail, htailinfo⟩ := h.exists_particle hn
  obtain ⟨head, hhead, hheadinfo⟩ := h.exists_particle hm
  refine ⟨⟨l, e, tail, head⟩, rfl, he, hlabel.symm, hsource, htarget, htail, hhead, ?_, ?_⟩
  · rw [htailinfo, ← hnid, infoOf]
  · rw [hheadinfo, ← hmid, infoOf]

/-- Links of the scene have their arrows. -/
lemma exists_arrows (h : s.StandsFor d) {links : List Link} (hlinks : ∀ l ∈ links, l ∈ s.links) :
    ∃ arrows : List Arrow, arrows.map (·.link) = links ∧ ∀ a ∈ arrows, a.Faithful d s := by
  induction links with
  | nil => exact ⟨[], rfl, fun _ ha => nomatch ha⟩
  | cons l links ih =>
      obtain ⟨arrows, rfl, hfaithful⟩ := ih fun m hm => hlinks m (List.mem_cons_of_mem _ hm)
      obtain ⟨a, rfl, ha⟩ := exists_faithful h (hlinks l List.mem_cons_self)
      exact ⟨a :: arrows, rfl, List.forall_mem_cons.2 ⟨ha, hfaithful⟩⟩

lemma short_iff {a : Arrow} (h : a.Faithful d s) :
    s.Short a.link ↔ a.tail.distance a.head < 0.001 := by
  constructor
  · rintro ⟨tail, head, htail, hhead, hshort⟩
    obtain rfl := Option.some.inj (htail.symm.trans h.tail)
    obtain rfl := Option.some.inj (hhead.symm.trans h.head)
    exact hshort
  · intro hshort
    exact ⟨a.tail, a.head, h.tail, h.head, hshort⟩

lemma mem_long_iff {arrows : List Arrow} (hfaithful : ∀ a ∈ arrows, a.Faithful d s) {l : Link} :
    l ∈ (arrows.filter Arrow.long).map (·.link) ↔ l ∈ arrows.map (·.link) ∧ ¬ s.Short l := by
  simp only [List.mem_map, List.mem_filter, Arrow.long_iff]
  constructor
  · rintro ⟨a, ⟨ha, hlong⟩, rfl⟩
    rw [short_iff (hfaithful a ha)]
    exact ⟨⟨a, ha, rfl⟩, hlong⟩
  · rintro ⟨⟨a, ha, rfl⟩, hlong⟩
    rw [short_iff (hfaithful a ha)] at hlong
    exact ⟨a, ⟨ha, hlong⟩, rfl⟩

/-- The links of the long arrows are those that have a span. -/
lemma filterMap_spanOf? {arrows : List Arrow} (hfaithful : ∀ a ∈ arrows, a.Faithful d s) :
    (arrows.map (·.link)).filterMap (fun l => (s.spanOf? l).map (l, ·))
      = (arrows.filter Arrow.long).map fun a => (a.link, spanOf a.tail a.head) := by
  induction arrows with
  | nil => rfl
  | cons a arrows ih =>
      obtain ⟨ha, hmore⟩ := List.forall_mem_cons.1 hfaithful
      rw [List.map_cons, List.filterMap_cons, spanOf?_eq ha.tail ha.head, ih hmore,
        List.filter_cons]
      by_cases hshort : a.tail.distance a.head < 0.001
      · rw [if_pos hshort, if_neg fun hlong => Arrow.long_iff.1 hlong hshort]
        rfl
      · rw [if_neg hshort, if_pos (Arrow.long_iff.2 hshort)]
        rfl

/-! ### Particles at their ends -/

/-- The disc and the number of the particle are on the canvas. -/
def Paints (s : Scene) (v : Visual) (p : Particle) (i : Nat) : Prop :=
  ∀ c : Context, ∀ figure ∈ [s.disc p i, s.numeral p i],
    figure ∈ (c.marks (s.paintParticles v 1 (s.paintOrder v))).map (·.figure)

lemma paints_of_mem_shownNodes {p : Particle} {i : Nat} (hp : s.particles[i]? = some p)
    (hshown : p.info.id ∈ v.shownNodes) : s.Paints v p i := by
  intro c figure hfigure
  rw [leaves_paintParticles, List.mem_flatMap]
  refine ⟨(p, i), mem_paintOrder.2 ⟨hp, hshown⟩, ?_⟩
  simp only [List.mem_cons, List.not_mem_nil, or_false] at hfigure
  rcases hfigure with rfl | rfl <;> simp [particleFigures]

/-- The ends of an arrow that is shown are shown, and so they are painted. -/
lemma paints_ends {a : Arrow} (hv : v.Grounded d) (ha : a.Faithful d s)
    (hshown : v.showsEdge a.link.id = true) :
    (a.tail.info.id ∈ v.shownNodes ∧ s.Paints v a.tail a.link.source)
      ∧ a.head.info.id ∈ v.shownNodes ∧ s.Paints v a.head a.link.target := by
  obtain ⟨n, hn, hnid⟩ := node_of_numberOf? ha.source
  obtain ⟨m, hm, hmid⟩ := node_of_numberOf? ha.target
  have htail : a.tail.info.id ∈ v.shownNodes := by
    rw [ha.tail_id, ← hnid]
    exact hv _ _ ha.edge hshown n (List.mem_of_getElem? hn) (.inl hnid)
  have hhead : a.head.info.id ∈ v.shownNodes := by
    rw [ha.head_id, ← hmid]
    exact hv _ _ ha.edge hshown m (List.mem_of_getElem? hm) (.inr hmid)
  exact ⟨⟨htail, paints_of_mem_shownNodes ha.tail htail⟩, hhead,
    paints_of_mem_shownNodes ha.head hhead⟩

/-! ### The picture -/

/-- Links leave the figures of their arrows. -/
lemma leaves_paintLinks {arrows : List Arrow} (hfaithful : ∀ a ∈ arrows, a.Faithful d s)
    (hpainted : s.paintedLinks v = arrows.map fun a => (a.link, spanOf a.tail a.head)) :
    Draw.Leaves (s.paintLinks v)
      (arrows.flatMap fun a => s.arrowFigures a.tail a.head a.edge.label) := by
  have hlabels : (arrows.flatMap fun a => s.arrowFigures a.tail a.head a.edge.label)
      = arrows.flatMap fun a => s.arrowFigures a.tail a.head a.link.label := by
    rw [List.flatMap_def, List.flatMap_def]
    refine congrArg List.flatten (List.map_congr_left fun a ha => ?_)
    rw [(hfaithful a ha).label]
  have hlink (a : Arrow) : Draw.Leaves (s.paintLink a.link (spanOf a.tail a.head))
      (s.arrowFigures a.tail a.head a.link.label) := leaves_paintLink s a.link a.tail a.head
  have hdash : Draw.Leaves [.lineDash []] [] := fun _ => rfl
  have hall := (Draw.Leaves.flatMap hlink arrows).append hdash
  rw [List.append_nil] at hall
  rw [paintLinks, hpainted, List.flatMap_map, hlabels]
  exact hall

/-- **No arrow dangles**: whatever an engine has done and whatever has become of the scene of its
dataset, the painted links leave one arrow for each link that is shown and not too short, in edge
order and nothing else; each arrow belongs to its edge and bears its label, and both of the
particles that it joins are shown and painted. -/
theorem arrows_paintLinks (g : Graph) (actions : List Action) {width height : Float}
    {showEdgeLabels : Bool} {s : Scene}
    (hs : (ofDataset (.ofGraph g) width height showEdgeLabels).Becomes s) :
    let v := ((Engine.ofGraph g).run actions).visual
    ∃ arrows : List Arrow,
      arrows.Pairwise (·.link.id < ·.link.id)
      ∧ (∀ l, l ∈ arrows.map (·.link) ↔ l ∈ s.links ∧ v.showsEdge l.id = true ∧ ¬ s.Short l)
      ∧ Draw.Leaves (s.paintLinks v)
          (arrows.flatMap fun a => s.arrowFigures a.tail a.head a.edge.label)
      ∧ ∀ a ∈ arrows, a.Faithful (.ofGraph g) s
          ∧ (a.tail.info.id ∈ v.shownNodes ∧ s.Paints v a.tail a.link.source)
          ∧ a.head.info.id ∈ v.shownNodes ∧ s.Paints v a.head a.link.target := by
  intro v
  have hgrounded : v.Grounded (.ofGraph g) := Engine.grounded_run g actions
  have hstands : s.StandsFor (.ofGraph g) := hs.standsFor (standsFor_ofDataset _ _ _ _)
  have hshownLinks : ∀ l ∈ s.links.filter fun l => v.showsEdge l.id, l ∈ s.links :=
    fun _ hl => (List.mem_filter.1 hl).1
  obtain ⟨arrows, harrows, hfaithful⟩ := exists_arrows hstands hshownLinks
  have hlong : ∀ a ∈ arrows.filter Arrow.long, a.Faithful (.ofGraph g) s :=
    fun a ha => hfaithful a (List.mem_filter.1 ha).1
  have hpainted : s.paintedLinks v
      = (arrows.filter Arrow.long).map fun a => (a.link, spanOf a.tail a.head) := by
    rw [paintedLinks, ← harrows, filterMap_spanOf? hfaithful]
  have hlinks (l : Link) : l ∈ (arrows.filter Arrow.long).map (·.link)
      ↔ l ∈ s.links ∧ v.showsEdge l.id = true ∧ ¬ s.Short l := by
    rw [mem_long_iff hfaithful, harrows, List.mem_filter, and_assoc]
  refine ⟨arrows.filter Arrow.long, ?_, hlinks, leaves_paintLinks hlong hpainted,
    fun a ha => ⟨hlong a ha, ?_⟩⟩
  · have hordered : (arrows.map (·.link)).Pairwise (·.id < ·.id) := by
      rw [harrows, hstands.links]
      exact (pairwise_linksOf _).filter _
    rw [List.pairwise_map] at hordered
    exact hordered.filter _
  · have hshown := ((hlinks a.link).1 (List.mem_map_of_mem ha)).2.1
    exact paints_ends hgrounded (hlong a ha) hshown

/-- The first edge leads nowhere, and two nodes have the index that the second one leads to. -/
def doubled : Graph where
  nodes := [
    ⟨0, "start", .plain, 0, none, false⟩,
    ⟨1, "first", .plain, 1, none, false⟩,
    ⟨1, "second", .plain, 2, none, false⟩]
  edges := [⟨0, 7, "x = 0;", 3⟩, ⟨0, 1, "x = 1;", 4⟩]

theorem arrows_doubled :
    let v := ((Engine.ofGraph doubled).run [.stepForward, .showFull .revealAll]).visual
    let s := ((ofDataset (.ofGraph doubled) 800 600 true).setHover (some 1)).changeBody 1
      fun body => { body with x := 40, y := 30, anchored := true }
    v.shownEdges = [0, 1]
      ∧ ∃ arrows : List Arrow,
        (∀ l, l ∈ arrows.map (·.link) ↔ l = ⟨1, 0, 1, "x = 1;"⟩ ∧ ¬ s.Short l)
        ∧ (∀ a ∈ arrows, a.tail.info.id = 0 ∧ a.head.info.id = 1)
        ∧ Draw.Leaves (s.paintLinks v)
            (arrows.flatMap fun a => s.arrowFigures a.tail a.head a.edge.label) := by
  intro v s
  have hs : (ofDataset (.ofGraph doubled) 800 600 true).Becomes s :=
    (Becomes.refl.hover (some 1)).place 1 _
  obtain ⟨arrows, -, hlinks, hleaves, hends⟩ :=
    arrows_paintLinks doubled [.stepForward, .showFull .revealAll] hs
  have hscene : s.links = [⟨1, 0, 1, "x = 1;"⟩] := by
    rw [(hs.standsFor (standsFor_ofDataset _ _ _ _)).links]
    cbv
  have hshown : v.showsEdge 1 = true := by cbv
  have hlink (l : Link) :
      l ∈ arrows.map (·.link) ↔ l = ⟨1, 0, 1, "x = 1;"⟩ ∧ ¬ s.Short l := by
    rw [hlinks, hscene, List.mem_singleton]
    constructor
    · rintro ⟨hl, -, hlong⟩
      exact ⟨hl, hlong⟩
    · rintro ⟨rfl, hlong⟩
      exact ⟨rfl, hshown, hlong⟩
  refine ⟨by cbv, arrows, hlink, fun a ha => ?_, hleaves⟩
  have hfaithful := (hends a ha).1
  have hedge : a.edge = ⟨0, 1, "x = 1;", 4⟩ := by
    have hfound := hfaithful.edge
    rw [((hlink a.link).1 (List.mem_map_of_mem ha)).1] at hfound
    exact (Option.some.inj hfound).symm
  exact ⟨by rw [hfaithful.tail_id, hedge], by rw [hfaithful.head_id, hedge]⟩

end Scene

end Retrace
