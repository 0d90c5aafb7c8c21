/-
**Where nodes come to lie.**

`Lies limits offset nodes placed last` says that `placed` are the nodes, each under the name of its
category, one behind the other from `offset` to `last`, none of them over the limits. Planning
succeeds exactly with such places for the nodes that the categories load (`plan_eq_ok`), and a
category loads what its object's instances are made into.

* `Lies.append`: what lies behind one another can be put together;
* `Lies.total`: the last offset is the first one and all sizes;
* `plan_meets`: what errors a plan can end with. The two narrowings and the second count are not
  among them.
-/

import FirmwareTables.Layout.Plan
import FirmwareTables.Proofs.Outcome

namespace FirmwareTables

/-! ### One behind the other -/

/-- Nodes lie one behind the other between two offsets, none of them over the limits. -/
inductive Lies (limits : Limits) : Nat → List (String × Node) → List Placed → Nat → Prop
  /-- Without nodes nothing is taken up. -/
  | nil (offset : Nat) : Lies limits offset [] [] offset
  /-- A node lies at the offset, and the others lie where it ends. -/
  | cons {offset size last : Nat} {name : String} {node : Node} {nodes : List (String × Node)}
      {placed : List Placed} (known : node.size = .ok size) (node_fits : size ≤ limits.maxNode)
      (table_fits : offset + size ≤ limits.maxTable) (start_fits : offset ≤ 4294967295)
      (length_fits : size ≤ 4294967295) (rest : Lies limits (offset + size) nodes placed last) :
      Lies limits offset ((name, node) :: nodes)
        (⟨⟨node.token, name, offset, size⟩, node⟩ :: placed) last

namespace Lies

variable {limits : Limits} {offset middle last : Nat} {nodes others : List (String × Node)}
  {placed behind : List Placed}

theorem append (first : Lies limits offset nodes placed middle)
    (second : Lies limits middle others behind last) :
    Lies limits offset (nodes ++ others) (placed ++ behind) last := by
  induction first with
  | nil => exact second
  | cons known node_fits table_fits start_fits length_fits rest ih =>
    exact .cons known node_fits table_fits start_fits length_fits (ih second)

/-- What lies there of two lists of nodes is what lies of the first and behind it of the second. -/
theorem split (lies : Lies limits offset (nodes ++ others) placed last) :
    ∃ front back middle, placed = front ++ back ∧ Lies limits offset nodes front middle ∧
      Lies limits middle others back last := by
  induction nodes generalizing offset placed with
  | nil => exact ⟨[], placed, offset, rfl, .nil offset, lies⟩
  | cons head nodes ih =>
    cases lies with
    | cons known node_fits table_fits start_fits length_fits rest =>
      obtain ⟨front, back, middle, rfl, first, second⟩ := ih rest
      exact ⟨_ :: front, back, middle, rfl,
        .cons known node_fits table_fits start_fits length_fits first, second⟩

/-- The nodes that lie there are those that were to be placed. -/
theorem nodes_eq (lies : Lies limits offset nodes placed last) :
    placed.map Placed.node = nodes.map Prod.snd := by
  induction lies with
  | nil => rfl
  | cons known node_fits table_fits start_fits length_fits rest ih =>
    rw [List.map_cons, List.map_cons, ih]

theorem length_eq (lies : Lies limits offset nodes placed last) :
    placed.length = nodes.length := by
  have same := congrArg List.length lies.nodes_eq
  rwa [List.length_map, List.length_map] at same

/-- The places have the tokens of the nodes. -/
theorem tokens_eq (lies : Lies limits offset nodes placed last) :
    placed.map (fun place => place.entry.token) = nodes.map fun node => node.2.token := by
  induction lies with
  | nil => rfl
  | cons known node_fits table_fits start_fits length_fits rest ih =>
    rw [List.map_cons, List.map_cons, ih]

/-- Every place has the token, the category and the size of its node, and is within the limits. -/
theorem entry_eq (lies : Lies limits offset nodes placed last) :
    ∀ place ∈ placed, place.entry.token = place.node.token ∧
      place.node.size = .ok place.entry.size ∧ place.entry.size ≤ limits.maxNode ∧
      place.entry.offset + place.entry.size ≤ limits.maxTable := by
  induction lies with
  | nil => exact fun _ inside => nomatch inside
  | cons known node_fits table_fits start_fits length_fits rest ih =>
    intro place inside
    rcases List.mem_cons.mp inside with rfl | inside
    · exact ⟨rfl, known, node_fits, table_fits⟩
    · exact ih place inside

/-- No table is over its limit unless its header is. -/
theorem last_le (lies : Lies limits offset nodes placed last) (front : offset ≤ limits.maxTable) :
    last ≤ limits.maxTable := by
  induction lies with
  | nil => exact front
  | cons known node_fits table_fits start_fits length_fits rest ih => exact ih table_fits

theorem offset_le (lies : Lies limits offset nodes placed last) : offset ≤ last := by
  induction lies with
  | nil => exact Nat.le_refl _
  | cons known node_fits table_fits start_fits length_fits rest ih => omega

/-- Nodes of some least size are not more than fit. -/
theorem count_le {least : Nat} (lies : Lies limits offset nodes placed last)
    (large : ∀ place ∈ placed, least ≤ place.entry.size) :
    offset + least * placed.length ≤ last := by
  induction lies with
  | nil => exact Nat.le_refl _
  | @cons offset size last name node nodes placed known node_fits table_fits start_fits length_fits
      rest ih =>
    have behind := ih fun place inside => large place (List.mem_cons_of_mem _ inside)
    have here : least ≤ size := large _ List.mem_cons_self
    rw [List.length_cons, Nat.mul_succ]
    omega

/-- Nodes of one size take as much room as their number says. -/
theorem last_eq {size : Nat} (lies : Lies limits offset nodes placed last)
    (each : ∀ place ∈ placed, place.entry.size = size) : last = offset + size * placed.length := by
  induction lies with
  | nil => rfl
  | @cons offset same last name node nodes placed known node_fits table_fits start_fits length_fits
      rest ih =>
    have behind := ih fun place inside => each place (List.mem_cons_of_mem _ inside)
    have here : same = size := each _ List.mem_cons_self
    rw [List.length_cons, Nat.mul_succ, behind, here]
    omega

end Lies

/-! ### Placing one category -/

theorem narrow_eq_ok {value result : Nat} :
    narrow value = .ok result ↔ value ≤ 4294967295 ∧ result = value := by
  unfold narrow
  split
  · rename_i small
    exact ⟨fun done => ⟨small, (Except.ok.inj done).symm⟩, fun ⟨_, same⟩ => by rw [same]⟩
  · rename_i large
    exact ⟨nofun, fun ⟨small, _⟩ => absurd small large⟩

namespace Category

variable {category : Category} {limits : Limits} {offset last : Nat} {node : Node}
  {nodes : List Node} {placed : List Placed}

/-- Placing a node, its size being known. -/
theorem place_of_size {size : Nat} (known : node.size = .ok size) :
    category.place limits offset node =
      if limits.maxNode < size then
        .error (.invalidParameter (.longNode category.name size limits.maxNode))
      else if limits.maxTable < offset + size then
        .error (.invalidParameter (.longTotal limits.maxTable))
      else do
        let start ← narrow offset
        let length ← narrow size
        return (⟨⟨node.token, category.name, start, length⟩, node⟩, offset + size) := by
  unfold place
  rw [known]
  rfl

theorem place_eq_ok {first : Placed} :
    category.place limits offset node = .ok (first, last) ↔
      ∃ size, node.size = .ok size ∧ size ≤ limits.maxNode ∧ offset + size ≤ limits.maxTable ∧
        offset ≤ 4294967295 ∧ size ≤ 4294967295 ∧
        first = ⟨⟨node.token, category.name, offset, size⟩, node⟩ ∧ last = offset + size := by
  cases known : node.size with
  | error error =>
    unfold place
    rw [known]
    exact ⟨nofun, fun ⟨_, absurd, _⟩ => nomatch absurd⟩
  | ok size =>
    rw [place_of_size known]
    constructor
    · intro done
      split at done
      · cases done
      split at done
      · cases done
      obtain ⟨start, startFits, done⟩ := bind_eq_ok.mp done
      obtain ⟨length, lengthFits, done⟩ := bind_eq_ok.mp done
      obtain ⟨startFits, rfl⟩ := narrow_eq_ok.mp startFits
      obtain ⟨lengthFits, rfl⟩ := narrow_eq_ok.mp lengthFits
      cases done
      exact ⟨length, rfl, by omega, by omega, startFits, lengthFits, rfl, rfl⟩
    · rintro ⟨_, same, nodeFits, tableFits, startFits, lengthFits, rfl, rfl⟩
      cases same
      rw [if_neg (by omega), if_neg (by omega), narrow_eq_ok.mpr ⟨startFits, rfl⟩,
        narrow_eq_ok.mpr ⟨lengthFits, rfl⟩]
      rfl

/-- **Placing the nodes of a category** is laying them one behind the other. -/
theorem placeAll_eq_ok :
    category.placeAll limits offset nodes = .ok (placed, last) ↔
      Lies limits offset (nodes.map fun node => (category.name, node)) placed last := by
  induction nodes generalizing offset placed last with
  | nil =>
    constructor
    · intro done
      cases done
      exact .nil offset
    · rintro ⟨⟩
      rfl
  | cons node nodes ih =>
    unfold placeAll
    constructor
    · intro done
      obtain ⟨⟨place, next⟩, first, done⟩ := bind_eq_ok.mp done
      obtain ⟨⟨rest, final⟩, others, done⟩ := bind_eq_ok.mp done
      cases done
      obtain ⟨size, known, nodeFits, tableFits, startFits, lengthFits, rfl, rfl⟩ :=
        place_eq_ok.mp first
      exact .cons known nodeFits tableFits startFits lengthFits (ih.mp others)
    · intro lies
      cases lies with
      | @cons _ size _ _ _ _ placed known nodeFits tableFits startFits lengthFits rest =>
        refine bind_eq_ok.mpr ⟨(_, offset + size), place_eq_ok.mpr
          ⟨size, known, nodeFits, tableFits, startFits, lengthFits, rfl, rfl⟩, ?_⟩
        exact bind_eq_ok.mpr ⟨(_, _), ih.mpr rest, rfl⟩

end Category

/-! ### The nodes of all categories -/

/-- A view counts and loads these nodes for a category. -/
def Category.Loads (category : Category) (view : View) (nodes : List Node) : Prop :=
  (category.count view).result = .ok nodes.length ∧
    (nodes ≠ [] → (category.load view).result = .ok nodes)

/-- Nodes under the names of their categories. -/
def labelled (categories : List Category) (groups : List (List Node)) : List (String × Node) :=
  (categories.zip groups).flatMap fun (category, nodes) => nodes.map fun node => (category.name, node)

theorem Category.loadCounted_eq_ok {category : Category} {view : View} {count : Nat}
    {nodes : List Node} :
    (category.loadCounted view count).result = .ok nodes ↔
      (category.load view).result = .ok nodes ∧ nodes.length = count := by
  unfold loadCounted
  rw [Reading.result_bind, bind_eq_ok]
  constructor
  · rintro ⟨loaded, load, done⟩
    split at done
    · cases done
    · rename_i same
      cases done
      exact ⟨load, Decidable.not_not.mp same⟩
  · rintro ⟨load, same⟩
    refine ⟨nodes, load, ?_⟩
    rw [if_neg (by rw [same]; exact fun different => different rfl)]
    rfl

namespace Layout

variable {limits : Limits} {view : View} {offset last : Nat} {placed : List Placed}

/-- The nodes of counted categories, placed. -/
theorem placeFrom_eq_ok {categories : List Category} {counts : List Nat}
    (same : categories.length = counts.length) :
    (placeFrom limits view offset (categories.zip counts)).result = .ok (placed, last) ↔
      ∃ groups : List (List Node), groups.map List.length = counts ∧
        List.Forall₂ (fun category nodes => nodes ≠ [] → (category.load view).result = .ok nodes)
          categories groups ∧
        Lies limits offset (labelled categories groups) placed last := by
  induction categories generalizing counts offset placed last with
  | nil =>
    obtain rfl : counts = [] := List.length_eq_zero_iff.mp same.symm
    constructor
    · intro done
      cases done
      exact ⟨[], rfl, .nil, .nil offset⟩
    · rintro ⟨groups, -, loads, lies⟩
      cases loads
      cases lies
      rfl
  | cons category categories ih =>
    obtain ⟨count, counts, rfl⟩ : ∃ count rest, counts = count :: rest :=
      List.exists_cons_of_length_eq_add_one same.symm
    have rest : categories.length = counts.length := Nat.succ.inj same
    rw [List.zip_cons_cons]
    unfold placeFrom
    by_cases empty : count = 0
    · rw [if_pos empty, ih rest]
      constructor
      · rintro ⟨groups, lengths, loads, lies⟩
        exact ⟨[] :: groups, by rw [List.map_cons, lengths, empty]; rfl,
          .cons (fun absurd => absurd.elim rfl) loads, lies⟩
      · rintro ⟨groups, lengths, loads, lies⟩
        cases loads with
        | @cons _ nodes _ groups load loads =>
          obtain ⟨here, others⟩ := List.cons_eq_cons.mp lengths
          obtain rfl : nodes = [] := List.length_eq_zero_iff.mp (here.trans empty)
          exact ⟨groups, others, loads, lies⟩
    · rw [if_neg empty]
      simp only [Reading.result_bind, bind_eq_ok, Reading.result_ofExcept,
        Category.loadCounted_eq_ok, Prod.exists]
      constructor
      · rintro ⟨nodes, ⟨load, count⟩, first, next, here, others, final, behind, done⟩
        cases done
        obtain ⟨groups, lengths, loads, lies⟩ := (ih rest).mp behind
        exact ⟨nodes :: groups, by rw [List.map_cons, lengths, count],
          .cons (fun _ => load) loads, (Category.placeAll_eq_ok.mp here).append lies⟩
      · rintro ⟨groups, lengths, loads, lies⟩
        cases loads with
        | @cons _ nodes _ groups load loads =>
          obtain ⟨here, tails⟩ := List.cons_eq_cons.mp lengths
          have filled : nodes ≠ [] := fun absurd => empty (by rw [← here, absurd]; rfl)
          obtain ⟨first, others, next, rfl, front, behind⟩ := Lies.split lies
          exact ⟨nodes, ⟨load filled, here⟩, first, next, Category.placeAll_eq_ok.mpr front,
            others, last, (ih rest).mpr ⟨groups, tails, loads, behind⟩, rfl⟩

/-- **Planning succeeds** exactly where the categories count and load nodes that can lie one behind
the other. -/
theorem plan_eq_ok {layout : Layout} {plan : Plan} :
    (layout.plan view).result = .ok plan ↔
      plan.headerLength = layout.headerLength ∧
        ∃ groups, List.Forall₂ (fun category nodes => category.Loads view nodes)
            layout.categories groups ∧
          Lies layout.limits layout.headerLength (labelled layout.categories groups)
            plan.placed plan.totalLength := by
  unfold Layout.plan Layout.count
  simp only [Reading.result_bind, bind_eq_ok, Reading.result_mapM, mapM_eq_ok, Prod.exists]
  constructor
  · rintro ⟨counts, counted, placed, last, made, done⟩
    cases done
    obtain ⟨groups, rfl, loads, lies⟩ := (placeFrom_eq_ok counted.length_eq).mp made
    have both := List.Forall₂.mp (fun _ _ => And.intro) (List.forall₂_map_right_iff.mp counted) loads
    exact ⟨rfl, groups, both, lies⟩
  · rintro ⟨front, groups, loads, lies⟩
    have counted : List.Forall₂ (fun category count => (category.count view).result = .ok count)
        layout.categories (groups.map List.length) :=
      List.forall₂_map_right_iff.mpr (loads.imp fun _ _ both => both.1)
    refine ⟨groups.map List.length, counted, plan.placed, plan.totalLength, ?_, ?_⟩
    · exact (placeFrom_eq_ok counted.length_eq).mpr
        ⟨groups, rfl, loads.imp fun _ _ both => both.2, lies⟩
    · cases plan
      cases front
      rfl

end Layout

/-! ### What a plan can fail with -/

/-- Limits that 32-bit numbers can state. -/
def Limits.AreNarrow (limits : Limits) : Prop :=
  limits.maxNode ≤ 4294967295 ∧ limits.maxTable ≤ 4294967295

/-- Nodes that tell their sizes. -/
def AreSized (nodes : List Node) : Prop := ∀ node ∈ nodes, ∃ size, node.size = .ok size

/-- A category that fails in some ways only, and loads what it counts. -/
structure Category.IsSteady (category : Category) (view : View) (limits : Limits)
    (bad : TableError → Prop) : Prop where
  /-- Counting fails in these ways only. -/
  count : Meets (fun _ => True) bad (category.count view).result
  /-- Loading fails in these ways only, and else gives as many nodes as were counted. -/
  load : ∀ count, (category.count view).result = .ok count → count ≠ 0 →
    Meets (fun nodes => nodes.length = count ∧ AreSized nodes) bad (category.load view).result
  /-- A node over the limit is one of the ways. -/
  node : ∀ size, bad (.invalidParameter (.longNode category.name size limits.maxNode))
  /-- A table over the limit is one of the ways. -/
  table : bad (.invalidParameter (.longTotal limits.maxTable))

namespace Category.IsSteady

variable {category : Category} {view : View} {limits : Limits} {bad : TableError → Prop}

theorem placeAll (steady : category.IsSteady view limits bad) (narrow : limits.AreNarrow)
    {offset : Nat} {nodes : List Node} (sized : AreSized nodes) :
    Meets (fun _ => True) bad (category.placeAll limits offset nodes) := by
  induction nodes generalizing offset with
  | nil => exact trivial
  | cons node nodes ih =>
    obtain ⟨size, known⟩ := sized node List.mem_cons_self
    have placed : Meets (fun _ => True) bad (category.place limits offset node) := by
      rw [place_of_size known]
      split
      · exact steady.node size
      split
      · exact steady.table
      -- Within narrow limits both numbers fit: the narrowings cannot fail.
      have := narrow.1
      have := narrow.2
      rw [narrow_eq_ok.mpr ⟨by omega, rfl⟩, narrow_eq_ok.mpr ⟨by omega, rfl⟩]
      exact trivial
    unfold Category.placeAll
    refine placed.bind fun (first, next) _ => ?_
    refine (ih fun other inside => sized other (List.mem_cons_of_mem _ inside)).bind
      fun (rest, last) _ => trivial

theorem loadCounted (steady : category.IsSteady view limits bad) {count : Nat}
    (counted : (category.count view).result = .ok count) (some : count ≠ 0) :
    Meets AreSized bad (category.loadCounted view count).result := by
  unfold Category.loadCounted
  rw [Reading.result_bind]
  refine (steady.load count counted some).bind fun nodes ⟨same, sized⟩ => ?_
  rw [if_neg (fun different => different same)]
  exact sized

end Category.IsSteady

namespace Layout

variable {view : View} {limits : Limits} {bad : TableError → Prop}

theorem placeFrom_meets {offset : Nat} {categories : List Category} {counts : List Nat}
    (narrow : limits.AreNarrow) (steady : ∀ category ∈ categories, category.IsSteady view limits bad)
    (counted : List.Forall₂ (fun category count => (category.count view).result = .ok count)
      categories counts) :
    Meets (fun _ => True) bad (placeFrom limits view offset (categories.zip counts)).result := by
  induction counted generalizing offset with
  | nil => exact trivial
  | @cons category count categories counts here behind ih =>
    have tail := fun offset => @ih offset fun other inside =>
      steady other (List.mem_cons_of_mem _ inside)
    have first := steady category List.mem_cons_self
    rw [List.zip_cons_cons]
    unfold placeFrom
    by_cases empty : count = 0
    · rw [if_pos empty]
      exact tail offset
    · rw [if_neg empty]
      simp only [Reading.result_bind, Reading.result_ofExcept]
      refine (first.loadCounted here empty).bind fun nodes sized => ?_
      refine (first.placeAll narrow sized).bind fun (placed, next) _ => ?_
      exact (tail next).bind fun _ _ => trivial

/-- **A plan fails** only as its categories do. -/
theorem plan_meets {layout : Layout} (narrow : layout.limits.AreNarrow)
    (steady : ∀ category ∈ layout.categories, category.IsSteady view layout.limits bad) :
    Meets (fun _ => True) bad (layout.plan view).result := by
  have counts : Meets (fun counts => List.Forall₂
      (fun category count => (category.count view).result = .ok count) layout.categories counts)
      bad (layout.count view).result := by
    unfold Layout.count
    rw [Reading.result_mapM]
    refine (Meets.mapM fun category inside => (steady category inside).count).keep.mono
      (fun counts both => mapM_eq_ok.mp both.2) fun _ same => same
  unfold Layout.plan
  simp only [Reading.result_bind]
  refine counts.bind fun counts counted => ?_
  exact (placeFrom_meets narrow steady counted).bind fun _ _ => trivial

end Layout

end FirmwareTables
