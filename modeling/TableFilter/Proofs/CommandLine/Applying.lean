import TableFilter.CommandLine.Run
import TableFilter.Proofs.FilterBar.Serving
import TableFilter.Proofs.FilterBar.Telling

/-!
# A run applies what it composes

A run of the program performs operations on a filter bar: it recalls what was saved, applies the
arguments in one update, and refreshes. A file always has columns, so that the refresh hands the
composed predicate to the table whatever the refresh mode is. What the run prints is read off the
table: the composed predicate, or the one that was accepted last if that one is refused, and the
number of rows that satisfy it.
-/

namespace TableFilter

open TableFilter.Parser

namespace Csv

/-- A line has at least one field. -/
theorem ne_nil_of_mem_split {place : Place} {field : List Char} {fields : List Field}
    {cs : List Char} {record : List Field} (h : record ∈ split place field fields cs) :
    record ≠ [] := by
  have hlast (f : Field) (fs : List Field) : (f :: fs).reverse ≠ [] := by simp
  induction cs generalizing place field fields with
  | nil =>
    unfold split at h
    split at h
    case isTrue => cases h
    case isFalse => exact List.mem_singleton.mp h ▸ hlast _ _
  | cons c cs ih =>
    unfold split at h
    split at h
    case h_1 => split at h <;> exact ih h
    case h_2 =>
      split at h
      case isTrue => exact ih h
      case isFalse =>
        split at h
        case isTrue =>
          -- The line ends here.
          rcases List.mem_cons.mp h with rfl | h
          · exact hlast _ _
          · exact ih h
        case isFalse =>
          split at h
          case isTrue => split at h <;> exact ih h
          case isFalse => exact ih h

theorem ne_nil_of_mem_records {s : String} {record : List Field} (h : record ∈ records s) :
    record ≠ [] := by
  unfold records at h
  split at h <;> exact ne_nil_of_mem_split h

theorem length_of_mapM {α β : Type} {f : α → Option β} {as : List α} {bs : List β}
    (h : as.mapM f = some bs) : bs.length = as.length := by
  induction as generalizing bs with
  | nil =>
    cases h
    rfl
  | cons a as ih =>
    rw [List.mapM_cons] at h
    obtain ⟨b, -, h⟩ := Option.bind_eq_some_iff.mp h
    obtain ⟨rest, hrest, h⟩ := Option.bind_eq_some_iff.mp h
    cases h
    rw [List.length_cons, List.length_cons, ih hrest]

theorem columns_of_ofColumns? {columns : List FrameColumn} {f : Frame}
    (h : Frame.ofColumns? columns = some f) : f.columns = columns := by
  unfold Frame.ofColumns? at h
  dsimp only at h
  split at h
  case isTrue =>
    cases h
    rfl
  case isFalse => cases h

/-- A file that can be read has columns. -/
theorem columns_ne_nil_of_frame? {s : String} {f : Frame} (h : frame? s = some f) :
    f.columns ≠ [] := by
  unfold frame? at h
  obtain ⟨records, hrecords, h⟩ := Option.bind_eq_some_iff.mp h
  cases hrecords
  split at h
  case h_2 => cases h
  case h_1 header rows hrecords =>
    have hheader : header ≠ [] := ne_nil_of_mem_records (hrecords ▸ List.mem_cons_self)
    dsimp only at h
    generalize (if header.length = 1 then rows else rows.filter (!isBlankRow ·)) = kept at h
    split at h
    case isTrue => cases h
    case isFalse =>
      obtain ⟨columns, hcolumns, hframe⟩ := Option.bind_eq_some_iff.mp h
      have hlength : columns.length = header.length := by
        rw [length_of_mapM hcolumns, List.length_zipIdx, columnNames, List.length_map,
          List.length_zipIdx]
      rw [columns_of_ofColumns? hframe, ← List.length_pos_iff, hlength, List.length_pos_iff]
      exact hheader

end Csv

theorem FrameView.columns_ofFrame_ne_nil (table : TableId) {f : Frame} (h : f.columns ≠ []) :
    (ofFrame table f).columns ≠ [] := by
  rw [← List.length_pos_iff] at h ⊢
  simpa [ofFrame, Frame.describe] using h

/-- The operations that arguments ask for, with the columns and predicates that their filters name:
one update. -/
def Arguments.operations (a : Arguments) (filters : List (String × String)) : List Operation :=
  [.beginUpdate] ++ (a.operator.map .setOperator).toList ++
    filters.map (fun q => .edit q.1 [.setFilter q.2]) ++ (a.base.map .setBaseFilter).toList ++
    (a.custom.map .setCustomFilter).toList ++ [.endUpdate]

theorem Arguments.ne_setView_of_mem_operations {a : Arguments} {filters : List (String × String)}
    {op : Operation} (h : op ∈ a.operations filters) (view : View) : op ≠ .setView view := by
  rintro rfl
  simp [operations, Option.map_eq_some_iff] at h

theorem Arguments.depth_operations (a : Arguments) (filters : List (String × String)) (depth : Nat) :
    (a.operations filters).foldl Operation.depth depth = depth := by
  have hsome {α : Type} (o : Option α) (f : α → Operation)
      (hf : ∀ x d, Operation.depth d (f x) = d) (d : Nat) :
      (o.map f).toList.foldl Operation.depth d = d := by
    cases o with
    | none => rfl
    | some x => exact hf x d
  have hfilters (d : Nat) : (filters.map fun q => Operation.edit q.1 [.setFilter q.2]).foldl
      Operation.depth d = d := by
    rw [List.foldl_map]
    exact List.foldl_fixed' (fun _ => rfl) filters
  simp only [operations, List.foldl_append, hfilters]
  rw [hsome _ _ fun _ _ => rfl, hsome _ _ fun _ _ => rfl, hsome _ _ fun _ _ => rfl]
  rfl

namespace FilterBar

variable {bar : FilterBar}

inductive Begins (settings : FilterSettings) (overrides : List (String × FilterKind)) (view : View) :
    Option String → FilterBar → Prop
  | anew : Begins settings overrides view none (ofSettings view settings overrides)
  | recalled {text : String} {memory : TableMemory} :
      (ofSettings view settings overrides).memory.load? text = some memory →
      Begins settings overrides view (some text)
        { ofSettings view settings overrides with memory }.dataSourceChanged

/-- A bar to which the arguments have been applied. What it has told since it was made is in its
trace. -/
inductive Applied (a : Arguments) (settings : FilterSettings) (view : View) (saved : Option String) :
    FilterBar → Prop
  | intro {overrides : List (String × FilterKind)} {filters : List (String × String)}
      {first bar : FilterBar} :
      Session.readOverrides a.strategies = .ok overrides →
      a.filters.mapM Session.readAssignment = .ok filters →
      Begins (if a.keep then { settings with keepFilters := true } else settings) overrides view
        saved first →
      (a.operations filters).foldlM perform first = .ok bar →
      Applied a settings view saved bar

variable {arguments : Arguments} {settings : FilterSettings} {view : View} {saved : Option String}

theorem Begins.serves {overrides : List (String × FilterKind)}
    (h : Begins settings overrides view saved bar) (hview : view.IsTruthful) :
    bar.Serves view := by
  have hbar := Serves.ofSettings hview settings overrides
  cases h with
  | anew => exact hbar
  | @recalled _ memory =>
    have hne : ∀ view, Operation.dataSourceChanged ≠ .setView view := nofun
    exact (hbar.memorize memory).perform hne rfl

theorem Begins.suspended {overrides : List (String × FilterKind)}
    (h : Begins settings overrides view saved bar) : bar.suspended = 0 := by
  have hbar : (ofSettings view settings overrides).suspended = 0 :=
    (alike_recompute _).suspended.trans (suspended_rebound _)
  cases h with
  | anew => exact hbar
  | @recalled _ memory =>
    have hrecalled : { ofSettings view settings overrides with memory }.perform
      .dataSourceChanged = .ok _ := rfl
    exact (suspended_perform hrecalled).trans hbar

theorem Begins.hasMadeFilters {overrides : List (String × FilterKind)}
    (h : Begins settings overrides view saved bar) : bar.HasMadeFilters := by
  cases h with
  | anew => exact hasMadeFilters_rebuild _
  | recalled => exact hasMadeFilters_rebuild _

namespace Applied

theorem serves (h : Applied arguments settings view saved bar) (hview : view.IsTruthful) :
    bar.Serves view := by
  obtain ⟨-, -, hbegins, hrun⟩ := h
  exact (hbegins.serves hview).foldlM (fun _ => Arguments.ne_setView_of_mem_operations) hrun

theorem suspended (h : Applied arguments settings view saved bar) : bar.suspended = 0 := by
  obtain ⟨-, -, hbegins, hrun⟩ := h
  rw [suspended_foldlM hrun, Arguments.depth_operations, hbegins.suspended]

/-- There is a filter for each column. -/
theorem isIdle (h : Applied arguments settings view saved bar) (hview : view.IsTruthful)
    (hcolumns : view.columns ≠ []) : bar.isIdle = false := by
  have hmade : bar.HasMadeFilters := by
    obtain ⟨-, -, hbegins, hrun⟩ := h
    exact hbegins.hasMadeFilters.foldlM hrun
  have hlength := congrArg List.length hmade
  rw [List.length_map, List.length_map, (h.serves hview).table.columns] at hlength
  have hne : bar.bindings ≠ [] := by
    rwa [← List.length_pos_iff, hlength, List.length_pos_iff]
  simp [FilterBar.isIdle, hne]

/-- After a refresh the table has the composed predicate in force, or the one that was accepted last
if it refuses that one. -/
theorem predicate_refresh (h : Applied arguments settings view saved bar) (hview : view.IsTruthful)
    (hcolumns : view.columns ≠ []) :
    (¬ view.Rejects bar.refresh.compose → bar.refresh.view.predicate = bar.refresh.compose) ∧
    (view.Rejects bar.refresh.compose →
      bar.refresh.view.predicate = (acceptedIn bar.events).getLast?.getD view.predicate) := by
  have hserves := h.serves hview
  rw [(alike_refresh bar).compose_eq, ← hserves.table.rejects_iff]
  rcases view_refresh_cases h.suspended (h.isIdle hview hcolumns) with hset | ⟨hrejects, hkept⟩
  · exact ⟨fun _ => (View.accepts_of_setPredicate hset).predicate,
      fun hrejects => absurd hset (hrejects _)⟩
  · exact ⟨fun hnot => absurd hrejects hnot, fun _ => hkept ▸ hserves.told.1⟩

theorem rowCount_refresh (h : Applied arguments settings view saved bar) (hview : view.IsTruthful) :
    bar.refresh.view.rowCount = (view.satisfied bar.refresh.view.predicate).count true := by
  have hrefresh := (h.serves hview).refresh
  rw [hrefresh.truthful.rowCount_eq, hrefresh.satisfied]

end Applied

end FilterBar

namespace Session

open FilterBar

variable {a : Arguments} {settings : FilterSettings} {view : View} {saved : Option String}
  {s t u : Session} {earlier later : List Operation}

/-- One session leads to another as some operations do, but for the notices, which are taken away
after each of them. -/
def Does (s : Session) (operations : List Operation) (t : Session) : Prop :=
  ∀ bar : FilterBar, bar.untold = s.bar →
    ∃ b, operations.foldlM FilterBar.perform bar = .ok b ∧ b.untold = t.bar

theorem Does.none (s : Session) : Does s [] s := fun bar hbar => ⟨bar, rfl, hbar⟩

theorem Does.trans (h : Does s earlier t) (h' : Does t later u) : Does s (earlier ++ later) u := by
  intro bar hbar
  obtain ⟨b, hb, htold⟩ := h bar hbar
  obtain ⟨c, hc, htold⟩ := h' b htold
  refine ⟨c, ?_, htold⟩
  rw [List.foldlM_append, hb]
  exact hc

theorem does_perform {op : Operation} (h : s.perform op = .ok t) : Does s [op] t := by
  intro bar hbar
  unfold perform at h
  split at h
  case h_1 b hb =>
    cases h
    rw [← hbar] at hb
    obtain ⟨c, hc, htold⟩ := perform_of_untold hb
    refine ⟨c, ?_, htold⟩
    rw [List.foldlM_cons, hc]
    rfl
  case h_2 => cases h

theorem does_performSome {op : Option Operation} (h : s.performSome op = .ok t) :
    Does s op.toList t := by
  cases op with
  | none =>
    cases h
    exact .none _
  | some op => exact does_perform h

theorem does_addFilter {argument : String} (h : s.addFilter argument = .ok t) :
    ∃ q, readAssignment argument = .ok q ∧ Does s [.edit q.1 [.setFilter q.2]] t := by
  obtain ⟨⟨column, predicate⟩, hq, h⟩ := bind_eq_ok.mp h
  obtain ⟨edited, hedited, h⟩ := bind_eq_ok.mp h
  refine ⟨_, hq, ?_⟩
  have hbar : t.bar = edited.bar := by
    split at h <;> cases h <;> rfl
  intro bar hbar'
  rw [hbar]
  exact does_perform hedited bar hbar'

theorem does_addFilters {filters : List String} (h : filters.foldlM addFilter s = .ok t) :
    ∃ read, filters.mapM readAssignment = .ok read ∧
      Does s (read.map fun q => .edit q.1 [.setFilter q.2]) t := by
  induction filters generalizing s with
  | nil =>
    cases h
    exact ⟨[], rfl, .none _⟩
  | cons argument filters ih =>
    rw [List.foldlM_cons] at h
    obtain ⟨edited, hedited, h⟩ := bind_eq_ok.mp h
    obtain ⟨q, hq, hfirst⟩ := does_addFilter hedited
    obtain ⟨read, hread, hrest⟩ := ih h
    refine ⟨q :: read, ?_, hfirst.trans hrest⟩
    rw [List.mapM_cons, hq, hread]
    rfl

theorem begins_of_reinstate {overrides : List (String × FilterKind)}
    (h : (start settings overrides view).reinstate saved = .ok s) :
    ∃ first, Begins settings overrides view saved first ∧ first.untold = s.bar := by
  cases saved with
  | none =>
    cases h
    exact ⟨_, .anew, rfl⟩
  | some text =>
    unfold reinstate at h
    dsimp only at h
    split at h
    case h_1 memory hmemory =>
      obtain ⟨b, hb, htold⟩ :=
        does_perform h { ofSettings view settings overrides with memory } rfl
      cases hb
      exact ⟨_, .recalled hmemory, htold⟩
    case h_2 => cases h

/-- A session ends with the bar on which its arguments were applied, after a refresh. -/
theorem exists_applied (h : ofArguments a settings view saved = .ok s) :
    ∃ bar, Applied a settings view saved bar ∧ s.bar = bar.refresh.untold := by
  obtain ⟨overrides, hoverrides, h⟩ := bind_eq_ok.mp h
  obtain ⟨first, hfirst, h⟩ := bind_eq_ok.mp h
  obtain ⟨s₁, h₁, h⟩ := bind_eq_ok.mp h
  obtain ⟨s₂, h₂, h⟩ := bind_eq_ok.mp h
  obtain ⟨s₃, h₃, h⟩ := bind_eq_ok.mp h
  obtain ⟨s₄, h₄, h⟩ := bind_eq_ok.mp h
  obtain ⟨s₅, h₅, h⟩ := bind_eq_ok.mp h
  obtain ⟨s₆, h₆, h⟩ := bind_eq_ok.mp h
  obtain ⟨filters, hfilters, hedits⟩ := does_addFilters h₃
  have hdoes : Does first (a.operations filters) s₆ :=
    (((((does_perform h₁).trans (does_performSome h₂)).trans hedits).trans
      (does_performSome h₄)).trans (does_performSome h₅)).trans (does_perform h₆)
  obtain ⟨begun, hbegins, hbegun⟩ := begins_of_reinstate hfirst
  obtain ⟨bar, hbar, htold⟩ := hdoes begun hbegun
  refine ⟨bar, .intro hoverrides hfilters hbegins hbar, ?_⟩
  obtain ⟨b, hb, htold⟩ := does_perform h bar htold
  cases hb
  exact htold.symm

end Session

/-- A run that ends well has answered with the predicate and the rows of its table. -/
theorem Outcome.exists_session {a : Arguments} {config : Config} {table : Option Frame}
    {saved : Option String} (h : (ofTable a config table saved).status = 0) : ∃ f s lists,
      table = some f ∧
      Session.ofArguments a config.filters
        (.frame ((FrameView.ofFrame ⟨Csv.stem a.csv⟩ f).withCase config.filters.caseSensitive))
        saved = .ok s ∧
      (ofTable a config table saved).output = lists ++ s.summary ++ s.firstRows a.rows := by
  have herror (e : RunError) (output told : List String) : (ofError e output told).status ≠ 0 := by
    cases e <;> exact nofun
  unfold ofTable at h ⊢
  split at h
  case h_1 => exact absurd h (herror _ _ _)
  case h_2 f =>
    dsimp only at h
    split at h
    case h_1 => exact absurd h (herror _ _ _)
    case h_2 s hs =>
      unfold ofSession at h
      split at h
      case h_1 => exact absurd h (herror _ _ _)
      case h_2 lists hlists =>
        refine ⟨f, s, lists, rfl, hs, ?_⟩
        simp only [hs, ofSession, hlists]

/-- A run that asks for a table reads the files that it names. -/
theorem Readers.run_eq {r : Readers Id} {arguments : List String} {a : Arguments}
    (h : r.request arguments = .ok (.run a)) : r.run arguments =
      (match r.config a.config with
      | .error e => .ofError (.config e) [] []
      | .ok config => .ofTable a config (r.table a.csv)
          (if a.keep then r.text config.snapshotPath else none) : Outcome) := by
  rw [run, h]
  change (match r.config a.config with
    | .error e => _
    | .ok config => _) = _
  split
  case h_1 => rfl
  case h_2 => cases a.keep <;> rfl

/-- However a run reads its arguments, its configuration and its table, which has columns: if it
asks for a table and ends well, it prints the predicate that the bar composes in the end if the
table accepts it, and otherwise the one that was accepted last before, and the number of rows that
satisfy what is printed. This does not depend on the refresh mode. -/
theorem run_applies_what_it_composes {r : Readers Id} {arguments : List String} {a : Arguments}
    (ha : r.request arguments = .ok (.run a))
    (hcolumns : ∀ f, r.table a.csv = some f → f.columns ≠ [])
    (hstatus : (r.run arguments).status = 0) :
    ∃ (config : Config) (f : Frame) (s : Session) (bar : FilterBar) (printed : String)
        (lists rows : List String),
      let v := FrameView.ofFrame ⟨Csv.stem a.csv⟩ f
      let view := View.frame (v.withCase config.filters.caseSensitive)
      let saved := if a.keep then r.text config.snapshotPath else none
      r.config a.config = .ok config ∧
      r.table a.csv = some f ∧
      Session.ofArguments a config.filters view saved = .ok s ∧
      FilterBar.Applied a config.filters view saved bar ∧
      s.bar = bar.refresh.untold ∧
      (¬ view.Rejects s.bar.compose → printed = s.bar.compose) ∧
      (view.Rejects s.bar.compose → printed = (acceptedIn bar.events).getLast?.getD "") ∧
      (r.run arguments).output = lists ++
        ["Filter: " ++ (if printed.isEmpty then "(none)" else printed),
         "Matching rows: " ++ toString ((List.range f.height).filter fun i =>
           Predicate.selects config.filters.caseSensitive (f.row i) printed).length] ++ rows := by
  rw [Readers.run_eq ha] at hstatus ⊢
  cases hload : r.config a.config with
  | error e =>
    rw [hload] at hstatus
    exact absurd hstatus nofun
  | ok config =>
    rw [hload] at hstatus
    obtain ⟨f, s, lists, hf, hs, houtput⟩ := Outcome.exists_session hstatus
    obtain ⟨bar, happlied, hbar⟩ := Session.exists_applied hs
    have htruthful : (View.frame ((FrameView.ofFrame ⟨Csv.stem a.csv⟩ f).withCase
        config.filters.caseSensitive)).IsTruthful := FrameView.marks_ofFrame ⟨Csv.stem a.csv⟩ f
    have hview : s.bar.view = bar.refresh.view := by
      rw [hbar]
      rfl
    have hcompose : s.bar.compose = bar.refresh.compose := by
      rw [hbar]
      rfl
    obtain ⟨haccepted, hrefused⟩ := happlied.predicate_refresh htruthful
      (FrameView.columns_ofFrame_ne_nil ⟨Csv.stem a.csv⟩ (hcolumns f hf))
    have hcount := happlied.rowCount_refresh htruthful
    refine ⟨config, f, s, bar, s.bar.view.predicate, lists, s.firstRows a.rows, rfl, hf, hs, happlied,
      hbar, ?_, ?_, ?_⟩
    · rw [hcompose, hview]
      exact haccepted
    · rw [hcompose, hview]
      exact hrefused
    · refine houtput.trans ?_
      rw [Session.summary, hview, hcount, View.satisfied, count_true_map]
      rfl

def readPeople (path : String) : Id (Option String) :=
  if path = "people.csv" then some "name\nAnn\nbob\n"
  else if path = "off.json5" then some "\x7b filters: \x7b refresh_mode: 'off' \x7d \x7d"
  else none

def peopleArguments : List String :=
  ["people.csv", "--config", "off.json5", "--where", "name=[name] LIKE 'a*'"]

theorem read_peopleArguments : Arguments.read peopleArguments = .ok (.run {
    csv := "people.csv"
    filters := ["name=[name] LIKE 'a*'"]
    config := some "off.json5" }) := by
  decide +kernel

/-- The filter is applied although an update does not renew the bar. -/
theorem run_applies_what_it_composes_people :
    (run readPeople "" [] peopleArguments).status = 0 ∧
    ∃ (config : Config) (f : Frame) (s : Session) (printed : String) (lists rows : List String),
      Csv.frame? "name\nAnn\nbob\n" = some f ∧
      (¬ (View.frame ((FrameView.ofFrame ⟨"people"⟩ f).withCase
        config.filters.caseSensitive)).Rejects s.bar.compose → printed = s.bar.compose) ∧
      (run readPeople "" [] peopleArguments).output = lists ++
        ["Filter: " ++ (if printed.isEmpty then "(none)" else printed),
         "Matching rows: " ++ toString ((List.range f.height).filter fun i =>
           Predicate.selects config.filters.caseSensitive (f.row i) printed).length] ++ rows := by
  have hstatus : (run readPeople "" [] peopleArguments).status = 0 := by decide +kernel
  have htable : (Readers.ofFiles readPeople "" []).table "people.csv" =
      Csv.frame? "name\nAnn\nbob\n" := rfl
  have hcolumns : ∀ f, (Readers.ofFiles readPeople "" []).table "people.csv" = some f →
      f.columns ≠ [] := fun _ hf => Csv.columns_ne_nil_of_frame? (htable ▸ hf)
  obtain ⟨config, f, s, bar, printed, lists, rows, -, hf, -, -, -, haccepted, -, houtput⟩ :=
    run_applies_what_it_composes read_peopleArguments hcolumns hstatus
  exact ⟨hstatus, config, f, s, printed, lists, rows, hf, haccepted, houtput⟩

example : (run readPeople "" [] peopleArguments).output =
    ["Filter: [name] LIKE 'a*'", "Matching rows: 1", "name", "Ann"] := by
  decide +kernel

end TableFilter
