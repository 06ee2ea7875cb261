import Display3270.Proofs.Layers
import Display3270.Proofs.StatusTexts

namespace Display3270

theorem getD_getD_self {α : Type} (o : Option α) (a : α) : o.getD (o.getD a) = o.getD a := by
  cases o <;> rfl

theorem Cell.under_under (cell : Cell) (col : Nat) (cs : List Change) :
    (cell.under col cs).under col cs = cell.under col cs := by
  simp only [under, getD_getD_self]

namespace StatusLine

theorem eq_of_get {s t : StatusLine} (h : ∀ f, s.get f = t.get f) : s = t := by
  have htexts : s.texts = t.texts := by
    apply Vector.ext
    intro i hi
    have hindex : ∀ k : Fin 13, ∃ f ∈ StatusField.all, f.index = k := by decide
    obtain ⟨f, -, hf⟩ := hindex ⟨i, hi⟩
    have hget := h f
    simp only [get, hf] at hget
    exact hget
  cases s
  cases t
  cases htexts
  rfl

theorem apply_texts_repeated (s : StatusLine) (n : Notice) :
    (s.apply n.texts).apply n.texts = s.apply n.texts := by
  apply eq_of_get
  intro f
  simp only [get_apply_texts, getD_getD_self]

end StatusLine

namespace Screen

theorem erase_erase (s : Screen) (e : Erase) : (s.erase e).erase e = s.erase e := by
  simp only [erase, resize, getD_getD_self]

theorem update_repeated {s t : Screen} {u : ScreenUpdate} {events : List Event}
    (h : s.update u = ⟨t, events, .ok ()⟩) : ∃ more, t.update u = ⟨t, more, .ok ()⟩ := by
  obtain ⟨hrows, hcols, -⟩ := update_frame h
  have hfits : u.violations t.rows t.cols = [] := by
    rw [hrows, hcols]
    exact (s.update_eq_ok_iff u).mp ⟨t, events, h⟩
  obtain ⟨v, more, hv⟩ := (t.update_eq_ok_iff u).mpr hfits
  obtain ⟨hrows', hcols', hfg', hbg'⟩ := update_frame hv
  have hsame : v = t := by
    apply eq_of_cells hrows' hcols' hfg' hbg'
    · rw [update_cursor hv, update_cursor h, getD_getD_self]
    · exact map_length_update hv
    · intro row col
      rw [cell?_update hv, cell?_update h, Option.map_map]
      simp only [Function.comp_def, Cell.under_under]
  rw [hsame] at hv
  exact ⟨more, hv⟩

end Screen

namespace Session

theorem notify_repeated {s t : Session} {n : Notice} {events : List Event}
    (h : s.notify n = ⟨t, events, .ok ()⟩) : ∃ more, t.notify n = ⟨t, more, .ok ()⟩ := by
  have hstatus := s.status.apply_texts_repeated n
  rcases notify_ok h with ⟨mode, rfl, rfl, -⟩ | ⟨update, screen, told, rfl, hu, rfl, -⟩ |
    ⟨erase, rfl, rfl, -⟩ | ⟨connection, rfl, rfl, -⟩ | ⟨field, rfl, rfl, -⟩ | ⟨-, rfl, -⟩
  · exact ⟨_, rfl⟩
  · obtain ⟨more, hmore⟩ := Screen.update_repeated hu
    simp only [Notice.texts] at hstatus
    simp only [notify, hmore, hstatus]
    exact ⟨_, rfl⟩
  · simp only [notify, s.screen.erase_erase]
    exact ⟨_, rfl⟩
  · simp only [Notice.texts] at hstatus
    simp only [notify, hstatus]
    exact ⟨_, rfl⟩
  · simp only [Notice.texts] at hstatus
    simp only [notify, setTexts, hstatus]
    exact ⟨_, rfl⟩
  · exact ⟨events, h⟩

/-- A notice that is delivered twice has the same result both times and leaves the session as it
was after the first time. -/
theorem dispatch_repeated (s : Session) (n : Notice) :
    let once := s.dispatch (.notice n)
    let twice := once.session.dispatch (.notice n)
    twice.result = once.result ∧ twice.session = once.session := by
  rcases s.dispatch_cases n with ⟨t, events, hn⟩ | ⟨e, hn⟩
  · have ht := s.dispatch_notice n ▸ hn
    obtain ⟨more, hmore⟩ := notify_repeated ht
    rw [hn]
    simp only [dispatch, hmore]
    exact ⟨trivial, trivial⟩
  · simp only [hn]
    exact ⟨trivial, trivial⟩

example :
    let batch : Indication :=
      .batch [.notice (.screen ⟨none, [⟨2, []⟩]⟩),
        .notice (.screenMode ⟨2, 1, 1, false, false, false⟩)]
    let once := (create 2 1 .green .black).dispatch batch
    once.result = .ok () ∧
      (once.session.dispatch batch).result = .error ⟨.rowOutside 2 1⟩ := by
  decide +kernel

end Session

end Display3270
