import DispatchCache.Proofs.Classification.Faithful

/-! # Reading the arguments of a call

The world is changed by reading arguments and by nothing else that an extraction does. So a
figure of the world that each argument leaves alone is the same afterwards. Arguments are seen
one after the other, each in the state that the ones before have left, and yield the keys of their
views in the table that is reached. Those that are read without a trace are seen as what they show
in the world as it is. Each key of a call was given to the argument at its place. -/

namespace DispatchCache

variable {World Arg Val Ty R Err : Type} [DecidableEq Ty]

namespace Host

variable (host : Host World Arg Val Ty R Err)

theorem world_classify (arg : Arg) (ambient : Ambient World Ty R) :
    ((classify host arg).eval ambient).2.world = (host.opened arg ambient).world := by
  rw [eval_classify]
  cases host.view arg ambient with
  | error cause => rfl
  | ok view => exact (view.demand_keeps _).1

/-- What a figure of the world is after an argument was classified depends on reading alone. -/
theorem figure_classify {Figure : Type} (figure : World → Figure) {arg : Arg}
    (kept : ∀ ambient,
      figure ((host.decontainerize arg).eval ambient).2.world = figure ambient.world)
    (ambient : Ambient World Ty R) :
    figure ((classify host arg).eval ambient).2.world = figure ambient.world := by
  rw [world_classify, opened]
  split_ifs
  · exact kept ambient
  · rfl

theorem figure_extractKeys {Figure : Type} (figure : World → Figure) {args : List Arg}
    (kept : ∀ arg ∈ args, ∀ ambient,
      figure ((host.decontainerize arg).eval ambient).2.world = figure ambient.world)
    (ambient : Ambient World Ty R) :
    figure ((extractKeys host args).eval ambient).2.world = figure ambient.world := by
  induction args generalizing ambient with
  | nil => rfl
  | cons arg args ih =>
    obtain ⟨first, later⟩ := List.forall_mem_cons.mp kept
    have same := host.figure_classify figure first ambient
    rw [extractKeys]
    rcases read : (classify host arg).eval ambient with ⟨cause | key, mid⟩
    · rw [Run.eval_bind_error _ read]
      rwa [read] at same
    · rw [Run.eval_bind_ok _ read, Run.snd_eval_bind_pure, ih later]
      rwa [read] at same

theorem figure_extract {Figure : Type} (figure : World → Figure) {args : List Arg}
    (kept : ∀ arg ∈ args, ∀ ambient,
      figure ((host.decontainerize arg).eval ambient).2.world = figure ambient.world)
    (ambient : Ambient World Ty R) :
    figure ((extract host args).eval ambient).2.world = figure ambient.world := by
  rw [extract, Run.snd_eval_bind_pure]
  exact host.figure_extractKeys figure kept ambient

omit [DecidableEq Ty] in
/-- The view of an argument that has a type of its own is that of the value read out of it. -/
theorem view_of_read {arg : Arg} {own : Ty} {value : Val} {ambient after : Ambient World Ty R}
    (other : host.isNativeStr ambient.world arg = false)
    (managed : host.ownType ambient.world arg = some own)
    (read : (host.decontainerize arg).eval ambient = (.ok value, after)) :
    host.view arg ambient = .ok (host.heldView after.world arg own value) := by
  simp only [view, other, managed, read, Bool.false_eq_true, if_false]

/-- Arguments are classified one after the other, each in the state that the one before has left.
They are seen as `views`, and reading them takes no slot away. -/
inductive Sees : Ambient World Ty R → List Arg → List (View Ty) → Ambient World Ty R → Prop where
  | nil (ambient : Ambient World Ty R) : Sees ambient [] [] ambient
  | cons {start stop : Ambient World Ty R} {arg : Arg} {view : View Ty} {args : List Arg}
      {views : List (View Ty)} (seen : host.view arg start = .ok view)
      (grown : start.Grows (host.opened arg start))
      (rest : Sees (view.demand (host.opened arg start)) args views stop) :
      Sees start (arg :: args) (view :: views) stop

variable {host}

theorem eval_classify_of_seen {arg : Arg} {view : View Ty} {ambient : Ambient World Ty R}
    (seen : host.view arg ambient = .ok view) :
    (classify host arg).eval ambient =
      (.ok (view.key (view.demand (host.opened arg ambient)).slots),
        view.demand (host.opened arg ambient)) := by
  rw [eval_classify, seen]

/-- Arguments yield the keys of the views that they are seen as, in the table that is reached. -/
theorem Sees.eval_extractKeys {start stop : Ambient World Ty R} {args : List Arg}
    {views : List (View Ty)} (sees : host.Sees start args views stop) :
    (extractKeys host args).eval start = (.ok (views.map (View.key stop.slots)), stop) ∧
      start.Grows stop ∧ ∀ view ∈ views, view.Keyed stop.slots := by
  induction sees with
  | nil ambient => exact ⟨rfl, List.prefix_rfl, nofun⟩
  | @cons start stop arg view args views seen grown _ ih =>
    obtain ⟨read, later, keyed⟩ := ih
    have keyed_view := view.keyed_demand (host.opened arg start)
    have demanded := grown.trans (view.prefix_demand (host.opened arg start))
    refine ⟨?_, demanded.trans later, List.forall_mem_cons.mpr ⟨keyed_view.of_prefix later, keyed⟩⟩
    rw [extractKeys, Run.eval_bind_ok _ (eval_classify_of_seen seen), Run.eval_bind_ok _ read,
      Run.eval_pure, List.map_cons, View.key_of_prefix keyed_view later]

theorem Sees.eval_extract {start stop : Ambient World Ty R} {args : List Arg}
    {views : List (View Ty)} (sees : host.Sees start args views stop) :
    (extract host args).eval start = (.ok ⟨views.map (View.key stop.slots)⟩, stop) :=
  Run.eval_bind_ok _ sees.eval_extractKeys.1

theorem Sees.grows {start stop : Ambient World Ty R} {args : List Arg} {views : List (View Ty)}
    (sees : host.Sees start args views stop) : start.Grows stop :=
  sees.eval_extractKeys.2.1

/-- Arguments that are seen as the same later on have the keys that they had. -/
theorem Sees.map_key_of_grown {start stop later : Ambient World Ty R} {args : List Arg}
    {views : List (View Ty)} (sees : host.Sees start args views stop) (grown : stop.Grows later) :
    views.map (View.key later.slots) = views.map (View.key stop.slots) := by
  obtain ⟨-, -, keyed⟩ := sees.eval_extractKeys
  exact List.map_congr_left fun view member => View.key_of_prefix (keyed view member) grown

/-- What is read at all is seen as something, where reading takes no slot away. -/
theorem exists_sees_of_extractKeys (watch : Watch host) (grows : watch.Keeps Ambient.Grows)
    {start stop : Ambient World Ty R} {args : List Arg} {keys : List (TypeKey Ty)}
    (read : (extractKeys host args).eval start = (.ok keys, stop)) :
    ∃ views, host.Sees start args views stop := by
  induction args generalizing start keys with
  | nil =>
    rw [extractKeys, Run.eval_pure] at read
    cases read
    exact ⟨[], .nil _⟩
  | cons arg args ih =>
    obtain ⟨key, mid, classified, rest⟩ := Run.exists_of_eval_bind_ok read
    obtain ⟨tail, _, read_tail, built⟩ := Run.exists_of_eval_bind_ok rest
    cases built
    have grown : start.Grows (host.opened arg start) := by
      unfold opened
      split_ifs
      · exact (watch.linked arg start).grows (grows arg start)
      · exact List.prefix_rfl
    rw [eval_classify] at classified
    cases seen : host.view arg start with
    | error cause =>
      rw [seen] at classified
      cases classified
    | ok view =>
      rw [seen] at classified
      cases classified
      obtain ⟨views, rest⟩ := ih read_tail
      exact ⟨view :: views, .cons seen grown rest⟩

theorem exists_sees_of_extract (watch : Watch host) (grows : watch.Keeps Ambient.Grows)
    {start stop : Ambient World Ty R} {args : List Arg} {print : Fingerprint Ty}
    (read : (extract host args).eval start = (.ok print, stop)) :
    ∃ views, host.Sees start args views stop := by
  obtain ⟨keys, _, read_keys, built⟩ := Run.exists_of_eval_bind_ok read
  cases built
  exact exists_sees_of_extractKeys watch grows read_keys

variable (host)

omit [DecidableEq Ty] in
/-- In this world the argument has the view, and reading it leaves no trace. -/
structure ShownIn (world : World) (arg : Arg) (view : View Ty) : Prop where
  seen : ∀ ambient : Ambient World Ty R, ambient.world = world → host.view arg ambient = .ok view
  untouched : ∀ ambient : Ambient World Ty R, ambient.world = world →
    host.opened arg ambient = ambient

variable {host}

theorem eval_classify_of_shown {world : World} {arg : Arg} {view : View Ty}
    (shown : host.ShownIn world arg view) {ambient : Ambient World Ty R}
    (here : ambient.world = world) :
    (classify host arg).eval ambient =
      (.ok (view.key (view.demand ambient).slots), view.demand ambient) := by
  rw [eval_classify_of_seen (shown.seen ambient here), shown.untouched ambient here]

/-- Arguments that show their views are seen as these, and the world stays as it is. -/
theorem exists_sees_of_shown {world : World} {args : List Arg} {views : List (View Ty)}
    (shown : List.Forall₂ (host.ShownIn world) args views) {ambient : Ambient World Ty R}
    (here : ambient.world = world) :
    ∃ after, host.Sees ambient args views after ∧ after.world = world := by
  induction shown generalizing ambient with
  | nil => exact ⟨ambient, .nil ambient, here⟩
  | @cons arg view args views first _ ih =>
    have untouched := first.untouched ambient here
    obtain ⟨after, rest, there⟩ := ih ((view.demand_keeps ambient).1.trans here)
    refine ⟨after, .cons (first.seen ambient here) ?_ ?_, there⟩
    · rw [untouched]
      exact List.prefix_rfl
    · rwa [untouched]

theorem eval_extract_of_shown {world : World} {args : List Arg} {views : List (View Ty)}
    (shown : List.Forall₂ (host.ShownIn world) args views) {ambient : Ambient World Ty R}
    (here : ambient.world = world) :
    ∃ after, (extract host args).eval ambient =
        (.ok ⟨views.map (View.key after.slots)⟩, after) ∧
      after.world = world ∧ ambient.Grows after ∧ ∀ view ∈ views, view.Keyed after.slots := by
  obtain ⟨after, sees, there⟩ := exists_sees_of_shown shown here
  exact ⟨after, sees.eval_extract, there, sees.eval_extractKeys.2⟩

/-- Arguments that are classified alike make no difference to a call. -/
theorem extract_congr {arg other : Arg}
    (same : ∀ ambient : Ambient World Ty R,
      (classify host arg).eval ambient = (classify host other).eval ambient)
    (left right : List Arg) :
    extract host (left ++ arg :: right) = extract host (left ++ other :: right) := by
  have classified : classify host arg = classify host other := funext same
  have keys :
      extractKeys host (left ++ arg :: right) = extractKeys host (left ++ other :: right) := by
    induction left with
    | nil => simp only [List.nil_append, extractKeys, classified]
    | cons first left ih => simp only [List.cons_append, extractKeys, ih]
  rw [extract, extract, keys]

/-- A key at a place of a call was given to the argument that stands there. -/
theorem exists_key_of_eval_extractKeys {left right : List Arg} {arg : Arg}
    {keys : List (TypeKey Ty)} {ambient after : Ambient World Ty R}
    (read : (extractKeys host (left ++ arg :: right)).eval ambient = (.ok keys, after)) :
    ∃ before key behind start done, keys = before ++ key :: behind ∧
      before.length = left.length ∧ (classify host arg).eval start = (.ok key, done) := by
  induction left generalizing ambient keys with
  | nil =>
    obtain ⟨key, mid, classified, rest⟩ := Run.exists_of_eval_bind_ok read
    obtain ⟨behind, _, _, built⟩ := Run.exists_of_eval_bind_ok rest
    cases built
    exact ⟨[], key, behind, ambient, mid, rfl, rfl, classified⟩
  | cons first left ih =>
    obtain ⟨head, mid, _, rest⟩ := Run.exists_of_eval_bind_ok read
    obtain ⟨tail, _, read_tail, built⟩ := Run.exists_of_eval_bind_ok rest
    cases built
    obtain ⟨before, key, behind, start, done, rfl, len, classified⟩ := ih read_tail
    exact ⟨head :: before, key, behind, start, done, rfl, congrArg Nat.succ len, classified⟩

end Host

end DispatchCache
