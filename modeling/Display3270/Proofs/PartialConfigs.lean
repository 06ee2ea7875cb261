import Display3270.Config
import Display3270.Proofs.Json.Overlays
import Display3270.Proofs.Lines

namespace Display3270

open Record Reader

theorem Reader.ofText_ok_iff {α : Type} {r : Reader α} {text : String} {d : Draft}
    {trailing : Bool} {a : α} (h : Draft.scan text.toList = (d, trailing)) :
    r.ofText text = .ok a ↔ trailing = false ∧ r .text d = .ok a := by
  simp only [Reader.ofText, h, bind_eq_ok_iff]
  cases trailing with
  | false => simp [pure, Except.pure]
  | true => simp [bind, Except.bind, throw, throwThe, MonadExceptOf.throw]

namespace ReconnectConfig

def keys : List String := ["initial_secs", "factor", "max_secs", "delay"]

def set (c : ReconnectConfig) (key : String) (d : Draft) : Except Cause ReconnectConfig :=
  match key with
  | "initial_secs" => (double .text d).map fun x => { c with initialSecs := x }
  | "factor" => (double .text d).map fun x => { c with factor := x }
  | "max_secs" => (double .text d).map fun x => { c with maxSecs := x }
  | "delay" => (DelayPolicy.reader .text d).map fun p => { c with delay := p }
  | _ => .ok c

theorem exists_iff {p : ReconnectConfig → Prop} :
    (∃ c, p c) ↔ ∃ initialSecs factor maxSecs delay, p ⟨initialSecs, factor, maxSecs, delay⟩ :=
  ⟨fun ⟨⟨a, b, e, d⟩, h⟩ => ⟨a, b, e, d, h⟩, fun ⟨a, b, e, d, h⟩ => ⟨⟨a, b, e, d⟩, h⟩⟩

theorem local_record : record.Local := by
  refine .seq (.seq (.seq (.map ?_ _) ?_) ?_) ?_
  all_goals exact local_defaulted _ _ _

theorem build_ok_iff {s : Slots} {a b e : Double} {p : DelayPolicy} :
    record.build s = .ok ⟨a, b, e, p⟩ ↔
      (defaulted "initial_secs" double initial.initialSecs).build s = .ok a ∧
        (defaulted "factor" double initial.factor).build s = .ok b ∧
        (defaulted "max_secs" double initial.maxSecs).build s = .ok e ∧
        (defaulted "delay" DelayPolicy.reader initial.delay).build s = .ok p := by
  simp only [record, build_seq_ok, build_map_ok]
  constructor
  · rintro ⟨_, ⟨_, ⟨_, ⟨a, ha, rfl⟩, b, hb, rfl⟩, e, he, rfl⟩, p, hp, hsame⟩
    cases hsame
    exact ⟨ha, hb, he, hp⟩
  · rintro ⟨ha, hb, he, hp⟩
    exact ⟨_, ⟨_, ⟨_, ⟨_, ha, rfl⟩, _, hb, rfl⟩, _, he, rfl⟩, _, hp, rfl⟩

theorem sets (k : String) (d : Draft) : record.Sets set k d := by
  rintro s ⟨a, b, e, p⟩ ho hs
  unfold set
  split
  case h_5 hinitial hfactor hmax hdelay =>
    simp [build_ok_iff, build_add_of_ne (Ne.symm hinitial), build_add_of_ne (Ne.symm hfactor),
      build_add_of_ne (Ne.symm hmax), build_add_of_ne (Ne.symm hdelay)]
  all_goals
    have hmissing := hs (by decide)
    simp [build_ok_iff, exists_iff, build_add_self hmissing, build_missing hmissing, ho,
      build_add_of_ne, map_eq_ok_iff, and_assoc, and_comm, and_left_comm]

theorem reader_obj {ms : List (Option String × Draft)} {f : Option Fault} {c : ReconnectConfig} :
    reader .text (.obj ms f) = .ok c ↔
      f = none ∧ Draft.Sound keys ms ∧ Draft.overlay set initial ms = .ok c :=
  readObject_eq_overlay local_record rfl fun k d _ => sets k d

theorem overlay_perm {ms ns : List (Option String × Draft)} (h : Draft.Sound keys ms)
    (hp : ms.Perm ns) {c : ReconnectConfig} :
    Draft.overlay set initial ms = .ok c ↔ Draft.overlay set initial ns = .ok c :=
  Record.overlay_perm local_record rfl (fun k d _ => sets k d) h hp

end ReconnectConfig

namespace ScreenConfig

def keys : List String := ["foreground", "background", "rows", "columns"]

def set (c : ScreenConfig) (key : String) (d : Draft) : Except Cause ScreenConfig :=
  match key with
  | "foreground" => (Color.reader .text d).map fun x => { c with foreground := x }
  | "background" => (Color.reader .text d).map fun x => { c with background := x }
  | "rows" => (uint16 .text d).map fun n => { c with rows := n }
  | "columns" => (uint16 .text d).map fun n => { c with columns := n }
  | _ => .ok c

theorem exists_iff {p : ScreenConfig → Prop} :
    (∃ c, p c) ↔ ∃ foreground background rows columns, p ⟨foreground, background, rows, columns⟩ :=
  ⟨fun ⟨⟨a, b, m, n⟩, h⟩ => ⟨a, b, m, n, h⟩, fun ⟨a, b, m, n, h⟩ => ⟨⟨a, b, m, n⟩, h⟩⟩

theorem local_record : record.Local := by
  refine .seq (.seq (.seq (.map ?_ _) ?_) ?_) ?_
  all_goals exact local_defaulted _ _ _

theorem build_ok_iff {s : Slots} {a b : Color} {m n : UInt16} :
    record.build s = .ok ⟨a, b, m, n⟩ ↔
      (defaulted "foreground" Color.reader initial.foreground).build s = .ok a ∧
        (defaulted "background" Color.reader initial.background).build s = .ok b ∧
        (defaulted "rows" uint16 initial.rows).build s = .ok m ∧
        (defaulted "columns" uint16 initial.columns).build s = .ok n := by
  simp only [record, build_seq_ok, build_map_ok]
  constructor
  · rintro ⟨_, ⟨_, ⟨_, ⟨a, ha, rfl⟩, b, hb, rfl⟩, m, hm, rfl⟩, n, hn, hsame⟩
    cases hsame
    exact ⟨ha, hb, hm, hn⟩
  · rintro ⟨ha, hb, hm, hn⟩
    exact ⟨_, ⟨_, ⟨_, ⟨_, ha, rfl⟩, _, hb, rfl⟩, _, hm, rfl⟩, _, hn, rfl⟩

theorem sets (k : String) (d : Draft) : record.Sets set k d := by
  rintro s ⟨a, b, m, n⟩ ho hs
  unfold set
  split
  case h_5 hforeground hbackground hrows hcolumns =>
    simp [build_ok_iff, build_add_of_ne (Ne.symm hforeground),
      build_add_of_ne (Ne.symm hbackground), build_add_of_ne (Ne.symm hrows),
      build_add_of_ne (Ne.symm hcolumns)]
  all_goals
    have hmissing := hs (by decide)
    simp [build_ok_iff, exists_iff, build_add_self hmissing, build_missing hmissing, ho,
      build_add_of_ne, map_eq_ok_iff, and_assoc, and_comm, and_left_comm]

theorem reader_obj {ms : List (Option String × Draft)} {f : Option Fault} {c : ScreenConfig} :
    reader .text (.obj ms f) = .ok c ↔
      f = none ∧ Draft.Sound keys ms ∧ Draft.overlay set initial ms = .ok c :=
  readObject_eq_overlay local_record rfl fun k d _ => sets k d

theorem overlay_perm {ms ns : List (Option String × Draft)} (h : Draft.Sound keys ms)
    (hp : ms.Perm ns) {c : ScreenConfig} :
    Draft.overlay set initial ms = .ok c ↔ Draft.overlay set initial ns = .ok c :=
  Record.overlay_perm local_record rfl (fun k d _ => sets k d) h hp

end ScreenConfig

def Draft.fill {α : Type} (set : α → String → Draft → Except Cause α) (initial : α) :
    Draft → Except Cause α
  | .obj ms none => overlay set initial ms
  | _ => .error .wrongType

namespace Config

def keys : List String := ["host", "reconnect", "screen", "trace_file", "log_filter"]

def set (c : Config) (key : String) (d : Draft) : Except Cause Config :=
  match key with
  | "host" => (string .text d).map fun s => { c with host := s }
  | "reconnect" =>
    (d.fill ReconnectConfig.set .initial).map fun r => { c with reconnect := r }
  | "screen" => (d.fill ScreenConfig.set .initial).map fun s => { c with screen := s }
  | "trace_file" => (string.option .text d).map fun v => { c with traceFile := v }
  | "log_filter" => (string.option .text d).map fun v => { c with logFilter := v }
  | _ => .ok c

structure Sound (ms : List (Option String × Draft)) : Prop where
  top : Draft.Sound keys ms
  reconnect : ∀ d, (some "reconnect", d) ∈ ms →
    ∃ rs, d = .obj rs none ∧ Draft.Sound ReconnectConfig.keys rs
  screen : ∀ d, (some "screen", d) ∈ ms →
    ∃ rs, d = .obj rs none ∧ Draft.Sound ScreenConfig.keys rs

theorem exists_iff {p : Config → Prop} :
    (∃ c, p c) ↔ ∃ host reconnect screen traceFile logFilter,
      p ⟨host, reconnect, screen, traceFile, logFilter⟩ :=
  ⟨fun ⟨⟨a, r, s, t, l⟩, h⟩ => ⟨a, r, s, t, l, h⟩, fun ⟨a, r, s, t, l, h⟩ => ⟨⟨a, r, s, t, l⟩, h⟩⟩

theorem local_record : record.Local := by
  refine .seq (.seq (.seq (.seq (.map ?_ _) ?_) ?_) ?_) ?_
  all_goals exact local_defaulted _ _ _

theorem build_ok_iff {s : Slots} {a : String} {r : ReconnectConfig} {w : ScreenConfig}
    {t l : Option String} :
    record.build s = .ok ⟨a, r, w, t, l⟩ ↔
      (defaulted "host" string initial.host).build s = .ok a ∧
        (defaulted "reconnect" ReconnectConfig.reader initial.reconnect).build s = .ok r ∧
        (defaulted "screen" ScreenConfig.reader initial.screen).build s = .ok w ∧
        (defaulted "trace_file" string.option initial.traceFile).build s = .ok t ∧
        (defaulted "log_filter" string.option initial.logFilter).build s = .ok l := by
  simp only [record, build_seq_ok, build_map_ok]
  constructor
  · rintro ⟨_, ⟨_, ⟨_, ⟨_, ⟨a, ha, rfl⟩, r, hr, rfl⟩, w, hw, rfl⟩, t, ht, rfl⟩, l, hl, hsame⟩
    cases hsame
    exact ⟨ha, hr, hw, ht, hl⟩
  · rintro ⟨ha, hr, hw, ht, hl⟩
    exact ⟨_, ⟨_, ⟨_, ⟨_, ⟨_, ha, rfl⟩, _, hr, rfl⟩, _, hw, rfl⟩, _, ht, rfl⟩, _, hl, rfl⟩

variable {ms ns : List (Option String × Draft)}

theorem Sound.sets (h : Sound ms) {k : String} {d : Draft} (hd : (some k, d) ∈ ms) :
    record.Sets set k d := by
  rintro s ⟨a, r, w, t, l⟩ ho hs
  unfold set
  split
  case h_6 hhost hreconnect hscreen htrace hlog =>
    simp [build_ok_iff, build_add_of_ne (Ne.symm hhost), build_add_of_ne (Ne.symm hreconnect),
      build_add_of_ne (Ne.symm hscreen), build_add_of_ne (Ne.symm htrace),
      build_add_of_ne (Ne.symm hlog)]
  case h_2 =>
    have hmissing := hs (by decide)
    obtain ⟨rs, rfl, hrs⟩ := h.reconnect d hd
    simp [build_ok_iff, exists_iff, build_add_self hmissing, build_missing hmissing, ho,
      build_add_of_ne, map_eq_ok_iff, ReconnectConfig.reader_obj, hrs, Draft.fill, and_assoc,
      and_comm, and_left_comm]
  case h_3 =>
    have hmissing := hs (by decide)
    obtain ⟨rs, rfl, hrs⟩ := h.screen d hd
    simp [build_ok_iff, exists_iff, build_add_self hmissing, build_missing hmissing, ho,
      build_add_of_ne, map_eq_ok_iff, ScreenConfig.reader_obj, hrs, Draft.fill, and_assoc,
      and_comm, and_left_comm]
  all_goals
    have hmissing := hs (by decide)
    simp [build_ok_iff, exists_iff, build_add_self hmissing, build_missing hmissing, ho,
      build_add_of_ne, map_eq_ok_iff, and_assoc, and_comm, and_left_comm]

theorem Sound.build (h : Sound ms) {c : Config} :
    record.build (.among ms) = .ok c ↔ Draft.overlay set initial ms = .ok c :=
  build_eq_overlay rfl (fun _ _ hd => h.sets hd) h.top

def ObjectSections (ms : List (Option String × Draft)) : Prop :=
  ∀ k ∈ ["reconnect", "screen"], ∀ d, (some k, d) ∈ ms → ∃ rs f, d = .obj rs f

theorem sound_of_build (hobjects : ObjectSections ms) (htop : Draft.Sound keys ms) {c : Config}
    (h : record.build (.among ms) = .ok c) : Sound ms := by
  obtain ⟨a, r, w, t, l⟩ := c
  obtain ⟨-, hreconnect, hscreen, -, -⟩ := build_ok_iff.mp h
  refine ⟨htop, ?_, ?_⟩
  · intro d hd
    obtain ⟨rs, f, rfl⟩ := hobjects "reconnect" (by simp) d hd
    rw [build_among htop (by decide) hd] at hreconnect
    obtain ⟨rfl, hrs, -⟩ := ReconnectConfig.reader_obj.mp hreconnect
    exact ⟨rs, rfl, hrs⟩
  · intro d hd
    obtain ⟨rs, f, rfl⟩ := hobjects "screen" (by simp) d hd
    rw [build_among htop (by decide) hd] at hscreen
    obtain ⟨rfl, hrs, -⟩ := ScreenConfig.reader_obj.mp hscreen
    exact ⟨rs, rfl, hrs⟩

section Load

variable {content : Content} {text : String} {f : Option Fault} {trailing : Bool} {c : Config}

theorem load_ok_iff (htext : content.text? = some text)
    (hscan : Draft.scan text.toList = (.obj ms f, trailing)) :
    load (some content) = .ok c ↔
      f = none ∧ trailing = false ∧ Draft.Sound keys ms ∧ record.build (.among ms) = .ok c := by
  have hload : load (some content) = .ok c ↔ reader.ofText text = .ok c := by
    simp only [load, htext]
    cases reader.ofText text <;> simp
  have hread : reader .text (.obj ms f) = .ok c ↔ _ := readObject_ok_iff local_record.checked
  rw [hload, Reader.ofText_ok_iff hscan, hread]
  exact and_left_comm

theorem load_of_sound (htext : content.text? = some text)
    (hscan : Draft.scan text.toList = (.obj ms none, false)) (h : Sound ms)
    (hc : Draft.overlay set initial ms = .ok c) : load (some content) = .ok c :=
  (load_ok_iff htext hscan).mpr ⟨rfl, rfl, h.top, h.build.mpr hc⟩

theorem load_iff_overlay (htext : content.text? = some text)
    (hscan : Draft.scan text.toList = (.obj ms f, trailing)) (hobjects : ObjectSections ms) :
    load (some content) = .ok c ↔
      f = none ∧ trailing = false ∧ Sound ms ∧ Draft.overlay set initial ms = .ok c := by
  constructor
  · intro hload
    obtain ⟨hf, htrailing, htop, hbuild⟩ := (load_ok_iff htext hscan).mp hload
    have hsound := sound_of_build hobjects htop hbuild
    exact ⟨hf, htrailing, hsound, hsound.build.mp hbuild⟩
  · rintro ⟨rfl, rfl, hsound, hc⟩
    exact load_of_sound htext hscan hsound hc

end Load

inductive Reordered : List (Option String × Draft) → List (Option String × Draft) → Prop
  | top {ms ns : List (Option String × Draft)} (h : ms.Perm ns) : Reordered ms ns
  | inside (before after : List (Option String × Draft)) (k : Option String) (f : Option Fault)
      {rs ss : List (Option String × Draft)} (h : rs.Perm ss) :
      Reordered (before ++ (k, .obj rs f) :: after) (before ++ (k, .obj ss f) :: after)
  | trans {ms ns ps : List (Option String × Draft)} (h : Reordered ms ns)
      (h' : Reordered ns ps) : Reordered ms ps

theorem set_inside {rs ss : List (Option String × Draft)} {f : Option Fault} (hp : rs.Perm ss)
    {k : String} (hreconnect : k = "reconnect" → Draft.Sound ReconnectConfig.keys rs)
    (hscreen : k = "screen" → Draft.Sound ScreenConfig.keys rs) {a c : Config} :
    set a k (.obj rs f) = .ok c ↔ set a k (.obj ss f) = .ok c := by
  unfold set
  split
  case h_2 =>
    cases f with
    | none =>
      simp only [map_eq_ok_iff, Draft.fill, ReconnectConfig.overlay_perm (hreconnect rfl) hp]
    | some f => rfl
  case h_3 =>
    cases f with
    | none => simp only [map_eq_ok_iff, Draft.fill, ScreenConfig.overlay_perm (hscreen rfl) hp]
    | some f => rfl
  all_goals rfl

theorem Sound.inside {before after rs ss : List (Option String × Draft)} {k : Option String}
    {f : Option Fault} (h : Sound (before ++ (k, .obj rs f) :: after)) (hp : rs.Perm ss) :
    Sound (before ++ (k, .obj ss f) :: after) := by
  have hmem {name : Option String} {d : Draft}
      (hd : (name, d) ∈ before ++ (k, .obj ss f) :: after) :
      (name, d) ∈ before ++ (k, .obj rs f) :: after ∨ name = k ∧ d = .obj ss f := by
    simp only [List.mem_append, List.mem_cons, Prod.mk.injEq] at hd ⊢
    tauto
  refine ⟨h.top.replace (Draft.skip_perm hp), ?_, ?_⟩
  · intro d hd
    rcases hmem hd with hd | ⟨rfl, rfl⟩
    · exact h.reconnect d hd
    · obtain ⟨_, hsame, hrs⟩ := h.reconnect (.obj rs f) (by simp)
      cases hsame
      exact ⟨ss, rfl, hrs.perm hp⟩
  · intro d hd
    rcases hmem hd with hd | ⟨rfl, rfl⟩
    · exact h.screen d hd
    · obtain ⟨_, hsame, hrs⟩ := h.screen (.obj rs f) (by simp)
      cases hsame
      exact ⟨ss, rfl, hrs.perm hp⟩

theorem overlay_inside {before after rs ss : List (Option String × Draft)} {k : Option String}
    {f : Option Fault} (h : Sound (before ++ (k, .obj rs f) :: after)) (hp : rs.Perm ss)
    {c : Config} (hc : Draft.overlay set initial (before ++ (k, .obj rs f) :: after) = .ok c) :
    Draft.overlay set initial (before ++ (k, .obj ss f) :: after) = .ok c := by
  have hmem : (k, Draft.obj rs f) ∈ before ++ (k, .obj rs f) :: after := by simp
  obtain ⟨k, rfl⟩ := Option.ne_none_iff_exists'.mp (h.top.texts _ hmem)
  have hreconnect : k = "reconnect" → Draft.Sound ReconnectConfig.keys rs := by
    rintro rfl
    obtain ⟨_, hsame, hrs⟩ := h.reconnect _ hmem
    cases hsame
    exact hrs
  have hscreen : k = "screen" → Draft.Sound ScreenConfig.keys rs := by
    rintro rfl
    obtain ⟨_, hsame, hrs⟩ := h.screen _ hmem
    cases hsame
    exact hrs
  simp only [Draft.overlay_append_ok_iff, Draft.overlay, bind_eq_ok_iff] at hc ⊢
  simpa only [set_inside hp hreconnect hscreen] using hc

theorem Reordered.overlay (h : Reordered ms ns) (hsound : Sound ms) {c : Config}
    (hc : Draft.overlay set initial ms = .ok c) :
    Sound ns ∧ Draft.overlay set initial ns = .ok c := by
  induction h with
  | top hp =>
    have hmem := fun m => (hp.mem_iff (a := m)).mpr
    refine ⟨⟨hsound.top.perm hp, fun d hd => hsound.reconnect d (hmem _ hd),
      fun d hd => hsound.screen d (hmem _ hd)⟩, ?_⟩
    exact (Record.overlay_perm local_record rfl
      (fun _ _ hd => hsound.sets hd) hsound.top hp).mp hc
  | inside before after k f hp => exact ⟨hsound.inside hp, overlay_inside hsound hp hc⟩
  | trans _ _ ih ih' =>
    obtain ⟨hsound, hc⟩ := ih hsound hc
    exact ih' hsound hc

def Repeats (ms : List (Option String × Draft)) : Prop :=
  Draft.Repeats keys ms ∨
    (∃ rs f, (some "reconnect", .obj rs f) ∈ ms ∧ Draft.Repeats ReconnectConfig.keys rs) ∨
    ∃ rs f, (some "screen", .obj rs f) ∈ ms ∧ Draft.Repeats ScreenConfig.keys rs

theorem Sound.not_repeats (h : Sound ms) : ¬Repeats ms := by
  rintro (hms | ⟨rs, f, hmem, hrs⟩ | ⟨rs, f, hmem, hrs⟩)
  · exact h.top.not_repeats hms
  · obtain ⟨_, hsame, hsound⟩ := h.reconnect _ hmem
    cases hsame
    exact hsound.not_repeats hrs
  · obtain ⟨_, hsame, hsound⟩ := h.screen _ hmem
    cases hsame
    exact hsound.not_repeats hrs

/-- An object whose sections are objects is loaded as the initial configuration with its members
set: what they do not name keeps its initial value, also in a section that is there. Another order
of the members gives the same configuration, and a key that stands twice gives none. -/
theorem load_given {content : Content} {text : String} {ms : List (Option String × Draft)}
    {f : Option Fault} {trailing : Bool} (htext : content.text? = some text)
    (hscan : Draft.scan text.toList = (.obj ms f, trailing)) (hobjects : ObjectSections ms) :
    (∀ c, load (some content) = .ok c ↔
      f = none ∧ trailing = false ∧ Sound ms ∧ Draft.overlay set initial ms = .ok c) ∧
    (∀ c content' text' ns, load (some content) = .ok c → Reordered ms ns →
      Content.text? content' = some text' → Draft.scan text'.toList = (.obj ns none, false) →
      load (some content') = .ok c) ∧
    (Repeats ms → ∃ e, load (some content) = .error e) := by
  have hload {c : Config} := load_iff_overlay (c := c) htext hscan hobjects
  refine ⟨fun c => hload, ?_, ?_⟩
  · intro c content' text' ns hc hordered htext' hscan'
    obtain ⟨-, -, hsound, hoverlay⟩ := hload.mp hc
    obtain ⟨hsound', hoverlay'⟩ := hordered.overlay hsound hoverlay
    exact load_of_sound htext' hscan' hsound' hoverlay'
  · intro hrepeats
    cases hc : load (some content) with
    | error e => exact ⟨e, rfl⟩
    | ok c =>
      obtain ⟨-, -, hsound, -⟩ := hload.mp hc
      exact absurd hrepeats hsound.not_repeats

theorem load_given_sections :
    let text := "\x7b\"z\":0,\"screen\":\x7b\"rows\":43,\"x\":1e400\x7d,\"log_filter\":null\x7d"
    let turned := "\x7b\"log_filter\":null,\"screen\":\x7b\"x\":1e400,\"rows\":43\x7d,\"z\":0\x7d"
    let repeated := "\x7b\"screen\":\x7b\"rows\":43,\"columns\":80,\"rows\":43\x7d\x7d"
    let c : Config := { initial with screen := { ScreenConfig.initial with rows := 43 } }
    load (some (.ofString text)) = .ok c ∧ load (some (.ofString turned)) = .ok c ∧
      ∃ e, load (some (.ofString repeated)) = .error e := by
  intro text turned repeated c
  let rs : List (Option String × Draft) :=
    [(some "rows", .num (.int 43)), (some "x", .fault ⟨.illFormed, none, .illFormed⟩)]
  let ss : List (Option String × Draft) :=
    [(some "rows", .num (.int 43)), (some "columns", .num (.int 80)), (some "rows", .num (.int 43))]
  let ms : List (Option String × Draft) :=
    [(some "z", .num (.int 0)), (some "screen", .obj rs none), (some "log_filter", .null)]
  let ns : List (Option String × Draft) :=
    [(some "z", .num (.int 0)), (some "screen", .obj rs.reverse none), (some "log_filter", .null)]
  have hscan : Draft.scan text.toList = (.obj ms none, false) := by
    unfold text
    rfl
  have hturned : Draft.scan turned.toList = (.obj ns.reverse none, false) := by
    unfold turned
    rfl
  have hrepeated : Draft.scan repeated.toList =
      (.obj [(some "screen", .obj ss none)] none, false) := by
    unfold repeated
    rfl
  have hload : load (some (.ofString text)) = .ok c := eq_ok_of_toOption (by decide +kernel)
  have hinside : Reordered ms ns :=
    .inside [(some "z", .num (.int 0))] [(some "log_filter", .null)] _ _ (List.reverse_perm rs).symm
  have hordered : Reordered ms ns.reverse := .trans hinside (.top (List.reverse_perm ns).symm)
  obtain ⟨-, hreorder, -⟩ := load_given (Content.text?_ofString text) hscan
    (by simp [ObjectSections, ms])
  obtain ⟨-, -, hrefuse⟩ := load_given (Content.text?_ofString repeated) hrepeated
    (by simp [ObjectSections])
  refine ⟨hload, ?_, hrefuse ?_⟩
  · exact hreorder c _ turned _ hload hordered (Content.text?_ofString turned) hturned
  · exact .inr (.inr ⟨ss, none, by simp, "rows", by decide, by decide⟩)

end Config

end Display3270
