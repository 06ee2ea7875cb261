import Display3270.Config
import Display3270.Proofs.Indication.Records
import Display3270.Proofs.Json.Floats
import Display3270.Proofs.Json.Texts
import Display3270.Proofs.Lines
import Display3270.Proofs.Utf8

namespace Display3270

open Record Reader

def Binary.Reread (x y : Double) : Prop := double.ofText (Json.double x).compact = .ok y

theorem Reader.double_rereads {x : Double} (h : x.isFinite) : double.Rereads (.double x) x := by
  rw [Json.double_eq h]
  rfl

namespace ReconnectConfig

def numbers (c : ReconnectConfig) : List Double := [c.initialSecs, c.factor, c.maxSecs]

theorem rereads_json {c : ReconnectConfig} (h : ∀ x ∈ c.numbers, x.isFinite) :
    reader.Rereads c.json c := by
  have hdelay : DelayPolicy.reader.Rereads (.str c.delay.name) c.delay := by
    cases c.delay <;> rfl
  apply Rebuilds.rereads
  · refine .seq (.seq (.seq (.map (rebuilds_field (double_rereads (h c.initialSecs ?_)) ?_) _)
      (rebuilds_field (double_rereads (h c.factor ?_)) ?_))
      (rebuilds_field (double_rereads (h c.maxSecs ?_)) ?_)) (rebuilds_field hdelay ?_)
    all_goals simp [numbers]
  · simp [Distinct]

theorem readAs_json {c : ReconnectConfig} (h : ∀ x ∈ c.numbers, x.isFinite) :
    ∃ d : ReconnectConfig, c.json.ReadAs d.json ∧ d.delay = c.delay ∧
      (∀ x ∈ d.numbers, x.isFinite) ∧ c.numbers.Forall₂ Binary.Reread d.numbers := by
  simp only [numbers, List.forall_mem_cons] at h
  obtain ⟨hinitial, hfactor, hmax, -⟩ := h
  have hreread {x y : Double} (hy : y.isFinite) (hread : (Json.double x).ReadAs (.double y)) :
      Binary.Reread x y :=
    (double_rereads hy).ofText hread Json.Spacing.blank_compact
  obtain ⟨a, ha, haread⟩ := Json.readAs_double hinitial
  obtain ⟨b, hb, hbread⟩ := Json.readAs_double hfactor
  obtain ⟨e, he, heread⟩ := Json.readAs_double hmax
  refine ⟨⟨a, b, e, c.delay⟩, ?_, rfl, ?_, ?_⟩
  · exact .obj (.cons _ haread (.cons _ hbread (.cons _ heread (.cons _ (.str _) .nil))))
  · simp [numbers, ha, hb, he]
  · exact .cons (hreread ha haread) (.cons (hreread hb hbread) (.cons (hreread he heread) .nil))

end ReconnectConfig

namespace ScreenConfig

theorem rereads_json (c : ScreenConfig) : reader.Rereads c.json c := by
  apply Rebuilds.rereads
  · refine .seq (.seq (.seq (.map (rebuilds_field ((Color.carries.reads _).rereads rfl) ?_) _)
      (rebuilds_field ((Color.carries.reads _).rereads rfl) ?_))
      (rebuilds_field ((uint16_carries.reads _).rereads rfl) ?_))
      (rebuilds_field ((uint16_carries.reads _).rereads rfl) ?_)
    all_goals simp
  · simp [Distinct]

theorem prints_json (n : Nat) (c : ScreenConfig) : c.json.Prints (n + 1) := by
  apply Json.prints_obj_of_pos (Nat.succ_pos _)
  simp

end ScreenConfig

namespace Config

theorem rereads_json {c : Config} (h : ∀ x ∈ c.reconnect.numbers, x.isFinite) :
    reader.Rereads c.json c := by
  apply Rebuilds.rereads
  · refine .seq (.seq (.seq (.seq (.map (rebuilds_field (string_rereads _) ?_) _)
      (rebuilds_field (ReconnectConfig.rereads_json h) ?_))
      (rebuilds_field c.screen.rereads_json ?_))
      (rebuilds_optional string_rereads (by simp) ?_))
      (rebuilds_optional string_rereads (by simp) ?_)
    all_goals simp
  · cases c.traceFile <;> cases c.logFilter <;> simp [Distinct, Json.member?]

theorem readAs_json {c : Config} {r : ReconnectConfig} (h : c.reconnect.json.ReadAs r.json) :
    c.json.ReadAs { c with reconnect := r }.json := by
  have hpaths : Json.MembersPrint 0 (Json.member? "trace_file" .str c.traceFile ++
      Json.member? "log_filter" .str c.logFilter) := by simp
  have hscreen : c.screen.json.ReadAs c.screen.json := (c.screen.prints_json 0).1.readAs
  have hrest := (Json.MembersReadAs.cons "screen" hscreen .nil).append hpaths.readAs
  rw [json, json, List.append_assoc, List.append_assoc]
  exact .obj (.cons "host" (.str _) (.cons "reconnect" h hrest))

theorem load_text_rereads (c : Config) (h : ∀ x ∈ c.reconnect.numbers, x.isFinite) :
    ∃ r : ReconnectConfig, r.delay = c.reconnect.delay ∧
      c.reconnect.numbers.Forall₂ Binary.Reread r.numbers ∧
      load (some (.ofBytes c.text.toUTF8.data.toList)) = .ok { c with reconnect := r } := by
  obtain ⟨r, hread, hdelay, hfinite, hnumbers⟩ := ReconnectConfig.readAs_json h
  refine ⟨r, hdelay, hnumbers, ?_⟩
  have hreread : reader.Rereads { c with reconnect := r }.json { c with reconnect := r } :=
    rereads_json hfinite
  have htext : reader.ofText c.text = .ok { c with reconnect := r } :=
    hreread.ofText (readAs_json hread) Json.Spacing.blank_indented
  rw [Content.ofBytes_toUTF8, load, Content.text?_ofString]
  simp only [htext]

/-- A configuration with finite numbers can always be loaded after it was saved. All that it says
beside them is kept, and it is the same configuration if the text of each number is read as that
number. -/
theorem load_text (c : Config) (h : ∀ x ∈ c.reconnect.numbers, x.isFinite) :
    ∃ d, load (some (.ofBytes c.text.toUTF8.data.toList)) = .ok d ∧
      d = { c with reconnect := d.reconnect } ∧ d.reconnect.delay = c.reconnect.delay ∧
      c.reconnect.numbers.Forall₂ Binary.Reread d.reconnect.numbers ∧
      d.screen.session = c.screen.session ∧
      ((∀ x ∈ c.reconnect.numbers, Binary.Reread x x) →
        d = c ∧ d.reconnect.backoff = c.reconnect.backoff) := by
  obtain ⟨r, hdelay, hnumbers, hload⟩ := load_text_rereads c h
  refine ⟨{ c with reconnect := r }, hload, rfl, hdelay, hnumbers, rfl, ?_⟩
  intro hreads
  have hsame : r = c.reconnect := by
    have hnext {x y : Double} (hx : Binary.Reread x x) (hy : Binary.Reread x y) : y = x :=
      Except.ok.inj (hy.symm.trans hx)
    obtain ⟨a, b, e, delay⟩ := r
    simp only [ReconnectConfig.numbers, List.forall_mem_cons] at hreads
    simp only [ReconnectConfig.numbers, List.forall₂_cons] at hnumbers
    obtain ⟨ha, hb, he, -⟩ := hreads
    obtain ⟨ha', hb', he', -⟩ := hnumbers
    obtain rfl : delay = c.reconnect.delay := hdelay
    rw [hnext ha ha', hnext hb hb', hnext he he']
  subst hsame
  exact ⟨rfl, rfl⟩

theorem load_text_full :
    let c : Config := ⟨"höst \"1\":3270\n🖥",
      ⟨.signed false 4591870180066957722, .signed true 0, .signed false 9094988921128908188,
        .constant⟩, ⟨.green, .red, 43, 132⟩, some "", some "term3270=debug"⟩
    load (some (.ofBytes c.text.toUTF8.data.toList)) = .ok c ∧
      c.screen.session ≠ initial.screen.session ∧
      c.reconnect.backoff ≠ initial.reconnect.backoff := by
  intro c
  have hfinite : ∀ x ∈ c.reconnect.numbers, x.isFinite := by decide +kernel
  have hreads : ∀ x ∈ c.reconnect.numbers, Binary.Reread x x := by
    unfold Binary.Reread
    intro x hx
    apply eq_ok_of_toOption
    revert x
    decide +kernel
  obtain ⟨d, hload, -, -, -, -, hsame⟩ := load_text c hfinite
  obtain ⟨rfl, -⟩ := hsame hreads
  exact ⟨hload, by decide +kernel, by decide +kernel⟩

end Config

end Display3270
