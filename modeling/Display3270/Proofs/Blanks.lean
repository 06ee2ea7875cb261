import Mathlib.Data.List.DropRight
import Display3270.Proofs.Layers

namespace Display3270

namespace Notice

def covers : Notice → Nat → Nat → Bool
  | .screen update, row, col =>
    update.rows.any fun r => r.row.toNat == row + 1 && r.changes.any fun c => c.covers col
  | _, _, _ => false

def clears : Notice → Bool
  | .screenMode _ | .erase _ => true
  | _ => false

def fg? : Notice → Option Color
  | .erase e => e.fg
  | _ => none

def bg? : Notice → Option Color
  | .erase e => e.bg
  | _ => none

theorem covering_of_not_covers {u : ScreenUpdate} {row col : Nat}
    (h : (Notice.screen u).covers row col = false) : covering u.rows row col = [] := by
  apply List.flatMap_eq_nil_iff.mpr
  intro r hr
  have hnone := List.any_eq_false.mp h r hr
  by_cases hrow : r.row.toNat = row + 1
  · rw [if_pos hrow]
    apply List.filter_eq_nil_iff.mpr
    intro c hc hcovers
    apply hnone
    rw [hrow, beq_self_eq_true, Bool.true_and]
    exact List.any_eq_true.mpr ⟨c, hc, hcovers⟩
  · exact if_neg hrow

theorem inert_of_sparesScreen {n : Notice} (h : n.sparesScreen = true) :
    n.clears = false ∧ n.fg? = none ∧ n.bg? = none := by
  cases n
  case screenMode | screen | erase => cases h
  all_goals exact ⟨rfl, rfl, rfl⟩

end Notice

namespace Screen

theorem cell?_blank {rows cols row col : Nat} (fg bg : Color) (cursor : Cursor) (hr : row < rows)
    (hc : col < cols) :
    (⟨rows, cols, blankGrid rows cols fg bg, fg, bg, cursor⟩ : Screen).cell? row col =
      some (.blank fg bg) := by
  simp [cell?, row?, blankGrid, hr, hc]

theorem rowEvents_replicate (first rows : Nat) (cells : List Cell) :
    rowEvents first (List.replicate rows cells) =
      (List.range' first rows).map fun row => .cells row 0 cells.length cells := by
  induction rows generalizing first with
  | zero => rfl
  | succ rows ih => rw [List.replicate_succ, rowEvents, ih, List.range'_succ, List.map_cons]

theorem redraw_blank (rows cols : Nat) (fg bg : Color) (cursor : Cursor) :
    (⟨rows, cols, blankGrid rows cols fg bg, fg, bg, cursor⟩ : Screen).redraw =
      (List.range rows).map (fun row => .cells row 0 cols (List.replicate cols (.blank fg bg))) ++
        [.cursor cursor] := by
  rw [redraw, blankGrid, rowEvents_replicate, List.length_replicate, List.range_eq_range']

theorem cell?_update_of_not_covers {s t : Screen} {u : ScreenUpdate} {events : List Event}
    (h : s.update u = ⟨t, events, .ok ()⟩) {row col : Nat}
    (hcovers : (Notice.screen u).covers row col = false) : t.cell? row col = s.cell? row col := by
  rw [cell?_update h, Notice.covering_of_not_covers hcovers]
  simp only [Cell.under_nil, Option.map_id']

end Screen

structure Outcome.Clears (o : Outcome DispatchError) (rows cols : Nat) (fg bg : Color)
    (cursor : Cursor) : Prop where
  result : o.result = .ok ()
  screen : o.session.screen =
    ⟨rows, cols, List.replicate rows (List.replicate cols ⟨" ", fg, bg, .empty⟩), fg, bg, cursor⟩
  events : o.events =
    (List.range rows).map
      (fun row => .cells row 0 cols (List.replicate cols ⟨" ", fg, bg, .empty⟩)) ++ [.cursor cursor]

namespace Session

theorem dispatch_screenMode_clears (s : Session) (mode : ScreenMode) :
    (s.dispatch (.notice (.screenMode mode))).Clears mode.rows.toNat mode.columns.toNat
      s.screen.fg s.screen.bg s.screen.cursor :=
  ⟨rfl, rfl, Screen.redraw_blank _ _ _ _ _⟩

theorem dispatch_erase_clears (s : Session) (e : Erase) :
    (s.dispatch (.notice (.erase e))).Clears ((e.rows.map UInt16.toNat).getD s.screen.rows)
      ((e.cols.map UInt16.toNat).getD s.screen.cols) (e.fg.getD s.screen.fg)
      (e.bg.getD s.screen.bg) s.screen.cursor :=
  ⟨rfl, rfl, Screen.redraw_blank _ _ _ _ _⟩

theorem notify_colors {s t : Session} {n : Notice} {events : List Event}
    (h : s.notify n = ⟨t, events, .ok ()⟩) :
    some t.screen.fg = n.fg?.or (some s.screen.fg) ∧
      some t.screen.bg = n.bg?.or (some s.screen.bg) := by
  rcases notify_screen h with ⟨mode, rfl, ht⟩ | ⟨update, told, rfl, hu⟩ | ⟨erase, rfl, ht⟩ |
    ⟨hn, ht⟩
  · rw [ht]
    exact ⟨rfl, rfl⟩
  · obtain ⟨-, -, hfg, hbg⟩ := Screen.update_frame hu
    exact ⟨congrArg some hfg, congrArg some hbg⟩
  · rw [ht]
    exact ⟨Option.or_some.symm, Option.or_some.symm⟩
  · obtain ⟨-, hfg, hbg⟩ := Notice.inert_of_sparesScreen hn
    rw [ht, hfg, hbg]
    exact ⟨rfl, rfl⟩

theorem feed_colors (s : Session) (texts : List String) :
    (s.feed texts).1.screen.fg =
        (((s.history texts).filterMap Notice.fg?).getLast?).getD s.screen.fg ∧
      (s.feed texts).1.screen.bg =
        (((s.history texts).filterMap Notice.bg?).getLast?).getD s.screen.bg := by
  have happlied := s.applied_history texts
  have hfg := happlied.last (fun s => some s.screen.fg) Notice.fg? fun h => (notify_colors h).1
  have hbg := happlied.last (fun s => some s.screen.bg) Notice.bg? fun h => (notify_colors h).2
  rw [Option.or_some] at hfg hbg
  exact ⟨Option.some.inj hfg, Option.some.inj hbg⟩

def Untouched (ns : List Notice) (row col : Nat) : Prop :=
  ∀ n ∈ ns.rtakeWhile (fun n => !n.clears), n.covers row col = false

theorem Untouched.of_concat {ns : List Notice} {n : Notice} {row col : Nat}
    (h : Untouched (ns ++ [n]) row col) (hn : n.clears = false) :
    Untouched ns row col ∧ n.covers row col = false := by
  have hpos : (!n.clears) = true := by rw [hn, Bool.not_false]
  rw [Untouched, List.rtakeWhile_concat_pos (fun n => !n.clears) ns n hpos] at h
  obtain ⟨hns, hlast⟩ := List.forall_mem_append.mp h
  exact ⟨hns, hlast n (List.mem_singleton_self n)⟩

def BlankSince (s : Session) (ns : List Notice) : Prop :=
  ∀ row col, row < s.screen.rows → col < s.screen.cols → Untouched ns row col →
    s.screen.cell? row col = some (.blank s.screen.fg s.screen.bg)

theorem blankSince_blank {s : Session} (ns : List Notice) {rows cols : Nat} {fg bg : Color}
    {cursor : Cursor}
    (h : s.screen = ⟨rows, cols, Screen.blankGrid rows cols fg bg, fg, bg, cursor⟩) :
    s.BlankSince ns := by
  intro row col hr hc _
  rw [h] at hr hc ⊢
  exact Screen.cell?_blank fg bg cursor hr hc

theorem BlankSince.notify {s t : Session} {ns : List Notice} {n : Notice} {events : List Event}
    (hs : s.BlankSince ns) (h : s.notify n = ⟨t, events, .ok ()⟩) : t.BlankSince (ns ++ [n]) := by
  rcases notify_screen h with ⟨mode, -, ht⟩ | ⟨update, told, rfl, hu⟩ | ⟨erase, -, ht⟩ | ⟨hn, ht⟩
  · exact blankSince_blank _ ht
  · intro row col hr hc huntouched
    obtain ⟨hbefore, hcovers⟩ := huntouched.of_concat rfl
    obtain ⟨hrows, hcols, hfg, hbg⟩ := Screen.update_frame hu
    rw [hrows] at hr
    rw [hcols] at hc
    rw [hfg, hbg, Screen.cell?_update_of_not_covers hu hcovers]
    exact hs row col hr hc hbefore
  · exact blankSince_blank _ ht
  · intro row col hr hc huntouched
    obtain ⟨hclears, -, -⟩ := Notice.inert_of_sparesScreen hn
    rw [ht] at hr hc ⊢
    exact hs row col hr hc (huntouched.of_concat hclears).1

/-- Whatever the session, a screen mode or an erase leaves nothing of the screen but the cursor: it
becomes a blank screen of the size and the colors that are given, and keeps those that are not. The
default colors are those that were last given by an erase. So a cell is blank in these colors as
long as nothing has covered it since the last screen mode or erase. -/
theorem feed_blank (rows cols : Nat) (fg bg : Color) (texts : List String) :
    let start := create rows cols fg bg
    let told := start.history texts
    let screen := (start.feed texts).1.screen
    (∀ (s : Session) (mode : ScreenMode), (s.dispatch (.notice (.screenMode mode))).Clears
      mode.rows.toNat mode.columns.toNat s.screen.fg s.screen.bg s.screen.cursor) ∧
    (∀ (s : Session) (e : Erase), (s.dispatch (.notice (.erase e))).Clears
      ((e.rows.map UInt16.toNat).getD s.screen.rows) ((e.cols.map UInt16.toNat).getD s.screen.cols)
      (e.fg.getD s.screen.fg) (e.bg.getD s.screen.bg) s.screen.cursor) ∧
    screen.fg = (told.filterMap Notice.fg?).getLast?.getD fg ∧
    screen.bg = (told.filterMap Notice.bg?).getLast?.getD bg ∧
    ∀ row col, row < screen.rows → col < screen.cols →
      (∀ n ∈ told.rtakeWhile (fun n => !n.clears), n.covers row col = false) →
      screen.cell? row col = some ⟨" ", screen.fg, screen.bg, .empty⟩ := by
  intro start told screen
  obtain ⟨hfg, hbg⟩ := start.feed_colors texts
  have hblank : (start.feed texts).1.BlankSince told :=
    feed_keeps (P := fun ns s => s.BlankSince ns) BlankSince.notify
      (blankSince_blank [] rfl) texts
  exact ⟨dispatch_screenMode_clears, dispatch_erase_clears, hfg, hbg, hblank⟩

theorem feed_blank_recolored :
    let erase := "\x7b\"erase\":\x7b\"fg\":\"red\"\x7d\x7d"
    let written := "\x7b\"screen\":\x7b\"rows\":[\x7b\"row\":1,\"changes\":" ++
      "[\x7b\"column\":2,\"text\":\"ab\"\x7d]\x7d]\x7d\x7d"
    let screen := ((create 1 4 .green .black).feed [written, erase, written]).1.screen
    screen.rows = 1 ∧ screen.cols = 4 ∧ screen.cell? 0 3 = some ⟨" ", .red, .black, .empty⟩ := by
  intro erase written screen
  have hscreen : screen.rows = 1 ∧ screen.cols = 4 ∧ screen.fg = .red ∧ screen.bg = .black := by
    decide +kernel
  obtain ⟨hrows, hcols, hfg, hbg⟩ := hscreen
  have huntouched : ∀ n ∈ ((create 1 4 .green .black).history [written, erase, written]).rtakeWhile
      (fun n => !n.clears), n.covers 0 3 = false := by decide +kernel
  obtain ⟨-, -, -, -, hblank⟩ := feed_blank 1 4 .green .black [written, erase, written]
  have hcell := hblank 0 3 (by rw [hrows]; decide) (by rw [hcols]; decide) huntouched
  rw [hfg, hbg] at hcell
  exact ⟨hrows, hcols, hcell⟩

end Session

end Display3270
