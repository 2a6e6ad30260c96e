import Preflight.Proofs.Check.Settle

namespace Preflight

variable {σ α β : Type}

def Context.onList (ctx : Context σ) (id : String) (items : List Item) : Context Unit :=
  ctx.withRead (readList id items)

def Context.Holds (ctx : Context σ) (items : List Item) (store : σ) : Prop :=
  ctx.count = items.length ∧ ∃ kept : σ → Prop, kept store ∧
    ∀ (index : Nat) item, items[index]? = some item → ∀ store, kept store →
      ((ctx.read index).run store).1 = .ok item ∧ kept ((ctx.read index).run store).2

theorem Context.Holds.agree {ctx : Context σ} {items : List Item} {store : σ} (h : ctx.Holds items store)
    (id : String) : ∃ R : σ → Unit → Prop, R store () ∧
      ∀ index < ctx.count, Reads.Agree R (ctx.read index) (readList id items index) := by
  obtain ⟨hcount, kept, hstore, reads⟩ := h
  refine ⟨fun store _ => kept store, hstore, ?_⟩
  intro index hi store _ hkept
  have found : items[index]? = some items[index] := List.getElem?_eq_getElem (by omega)
  obtain ⟨answer, after⟩ := reads index _ found store hkept
  exact ⟨answer.trans (itemAt_eq_ok.mpr found).symm, after⟩

theorem Context.holds_onList {ctx : Context σ} {items : List Item} (hcount : ctx.count = items.length) (id : String) :
    (ctx.onList id items).Holds items () := by
  refine ⟨hcount, fun _ => True, trivial, fun index item hitem store _ => ⟨?_, trivial⟩⟩
  exact itemAt_eq_ok.mpr hitem

theorem run_settle_onList {ctx : Context σ} {id : String} {items : List Item} (hcount : ctx.count = items.length)
    (before : Except Fault (Option Outcome)) (start : α) (visit : Nat → Item → α → Reads Unit (Progress α β))
    (close : Progress α β → Outcome) :
    ((ctx.onList id items).settle before start visit close).run () =
      match before with
      | .error fault => (.error fault, ())
      | .ok (some outcome) => (.ok outcome, ())
      | .ok none => (close <$> walk (fun index item seen => ((visit index item seen).run ()).1) 0 items start, ()) := by
  have walked : ((ctx.onList id items).scan start visit).run () =
      (walk (fun index item seen => ((visit index item seen).run ()).1) 0 items start, ()) := by
    change (scan (readList id items) visit ctx.count 0 start).run () = _
    rw [hcount]
    exact scan_readList id items visit (List.drop_zero (l := items)) start
  rw [Context.settle, Reads.run_bind, Reads.run_ofExcept]
  rcases before with fault | _ | outcome
  · rfl
  · change (_ >>= _ : Reads Unit Outcome).run () = _
    rw [Reads.run_bind, walked]
    cases walk (fun index item seen => ((visit index item seen).run ()).1) 0 items start <;> rfl
  · rfl

theorem settle_onList {ctx : Context σ} {id : String} {items : List Item} (hcount : ctx.count = items.length)
    {before : Except Fault (Option Outcome)} {start : α} {visit : Nat → Item → α → Reads Unit (Progress α β)}
    {close : Progress α β → Outcome} {outcome : Outcome}
    (h : ((ctx.onList id items).settle before start visit close).run () = (.ok outcome, ())) :
    before = .ok (some outcome) ∨
      before = .ok none ∧ ∃ progress, outcome = close progress ∧
        walk (fun index item seen => ((visit index item seen).run ()).1) 0 items start = .ok progress := by
  rw [run_settle_onList hcount] at h
  rcases before with fault | _ | decided
  · exact nomatch h
  · obtain ⟨progress, hwalk, rfl⟩ := Fault.map_ok (Prod.mk.inj h).1
    exact .inr ⟨rfl, progress, rfl, hwalk⟩
  · exact .inl (congrArg (Except.map some) (Prod.mk.inj h).1)

theorem walk_stopAt {fault : Nat → Item → Except Fault (Option Finding)} {items : List Item} :
    walk (fun index item seen => Check.stopAt seen <$> fault index item) 0 items () = .ok (.going ()) ↔
      ∀ (index : Nat) item, items[index]? = some item → fault index item = .ok none := by
  rw [walk_unit_going]
  refine forall₂_congr fun index item => imp_congr_right fun _ => ?_
  rcases fault index item with error | _ | finding
  · exact iff_of_false nofun nofun
  · exact iff_of_true rfl rfl
  · exact iff_of_false nofun nofun

end Preflight
