import SqlTemplate.Proofs.Secrecy.Worlds
/-!
# Computations that tell no secret

`Run.Secure` says two things of a computation. Whatever it is given, it leads from a world to one that extends it. And
if what it is given is within the scope, it does the same in two alike worlds: it gives the same result, within a scope
that may have grown, and leaves alike worlds. This holds as long as no function has read a secret in the end, which
nothing that is done later can undo.

A computation is secure if its parts are; the theorems here say so for each way of putting computations together.
-/

namespace SqlTemplate

/-- No function has read a secret. -/
def World.Unread (S : Secrets) (w : World) : Prop :=
  ∀ id name, (Value.object id, name) ∈ w.reads → S.Spares id name

theorem World.Unread.of_extends {S : Secrets} {w w₁ : World} (h : w.Extends S w₁) (hw : w₁.Unread S) :
    w.Unread S :=
  fun id name hmem => hw id name (h.reads.mem hmem)

namespace Run

variable {α β : Type}

/-- Nothing is known of a result, as it leads to no object. -/
def Anything {α : Type} (_ : Scope) (_ : α) : Prop := True

/-- A value, if there is one, is within a scope. -/
def OptionWithin (V : Scope) (value? : Option Value) : Prop :=
  ∀ value ∈ value?, value.Within V

/-- What a computation gives has a property in a scope, and what it fails with is within the scope. -/
def ResultWithin (post : Scope → α → Prop) (V : Scope) : Except Failure α → Prop
  | .ok a => post V a
  | .error failure => failure.Within V

/-- A computation extends every world whose functions give no other classes to objects than they may. -/
def Keeps (S : Secrets) (run : Run α) : Prop :=
  ∀ w : World, w.Admits S → w.Extends S (run.start w).2

/-- A computation does the same in two alike worlds unless a function reads a secret. -/
def Agrees (S : Secrets) (V : Scope) (run : Run α) (post : Scope → α → Prop) : Prop :=
  ∀ w w', World.Alike S V w w' → (run.start w).2.Unread S →
    ∃ V', V ≤ V' ∧ (run.start w').1 = (run.start w).1 ∧ ResultWithin post V' (run.start w).1 ∧
      World.Alike S V' (run.start w).2 (run.start w').2

theorem Agrees.of_start {S : Secrets} {V : Scope} {run : Run α} {post : Scope → α → Prop} (h : Agrees S V run post)
    {w w' w₁ : World} (halike : World.Alike S V w w') {result : Except Failure α}
    (hstart : run.start w = (result, w₁)) (hunread : w₁.Unread S) :
    ∃ V' w₁', V ≤ V' ∧ run.start w' = (result, w₁') ∧ ResultWithin post V' result ∧ World.Alike S V' w₁ w₁' := by
  have hrun := h w w' halike
  rw [hstart] at hrun
  obtain ⟨V', hV, heq, hwithin, halike'⟩ := hrun hunread
  exact ⟨V', (run.start w').2, hV, Prod.ext heq rfl, hwithin, halike'⟩

/-- All that a computation gives has a property. -/
def Gives (good : α → Prop) (run : Run α) : Prop :=
  ∀ w a w₁, run.start w = (.ok a, w₁) → good a

namespace Gives

variable {good : α → Prop}

theorem pure {a : α} (h : good a) : Gives good (pure a) := by
  intro w b w₁ hstart
  cases hstart
  exact h

theorem fail {failure : Failure} : Gives good (fail failure) := by
  intro w b w₁ hstart
  cases hstart

theorem bind {run : Run β} {next : β → Run α} (h : ∀ b, Gives good (next b)) : Gives good (run >>= next) := by
  intro w a w₁ hstart
  obtain ⟨b, w₂, -, hnext⟩ := start_bind_eq_ok.mp hstart
  exact h b w₂ a w₁ hnext

theorem orElse {run : Run α} {handler : Failure → Run α} (h : Gives good run)
    (hhandler : ∀ failure, Gives good (handler failure)) : Gives good (orElse run handler) := by
  intro w a w₁ hstart
  rw [start_orElse] at hstart
  rcases hresult : run.start w with ⟨failure | b, w₂⟩ <;> rw [hresult] at hstart
  · exact hhandler failure w₂ a w₁ hstart
  · cases hstart
    exact h w _ _ hresult

end Gives

/-- A computation extends worlds, and under a condition it does the same in two alike worlds. -/
structure Secure (S : Secrets) (V : Scope) (pre : Prop) (run : Run α) (post : Scope → α → Prop) :
    Prop where
  keeps : run.Keeps S
  agrees : pre → Agrees S V run post

namespace Secure

variable {S : Secrets} {V : Scope} {pre pre' : Prop} {post : Scope → α → Prop}
  {post' : Scope → β → Prop}

/-- A condition may be stronger. -/
theorem of {run : Run α} (h : Secure S V pre run post) (hpre : pre' → pre) : Secure S V pre' run post :=
  ⟨h.keeps, fun hp => h.agrees (hpre hp)⟩

/-- What is known of a result may be weaker. -/
theorem imp {run : Run α} {post' : Scope → α → Prop} (h : Secure S V pre run post)
    (hpost : ∀ V', V ≤ V' → ∀ a, pre → post V' a → post' V' a) : Secure S V pre run post' := by
  refine ⟨h.keeps, fun hpre w w' halike hunread => ?_⟩
  obtain ⟨V', hV, heq, hwithin, halike'⟩ := h.agrees hpre w w' halike hunread
  refine ⟨V', hV, heq, ?_, halike'⟩
  cases hresult : (run.start w).1 with
  | ok a =>
    rw [hresult] at hwithin
    exact hpost V' hV a hpre hwithin
  | error failure =>
    rw [hresult] at hwithin
    exact hwithin

theorem pure {a : α} (h : pre → post V a) : Secure S V pre (pure a) post :=
  ⟨fun w _ => .refl S w, fun hpre _ _ halike _ => ⟨V, le_rfl, rfl, h hpre, halike⟩⟩

theorem fail {failure : Failure} (h : pre → failure.Within V) :
    Secure S V pre (fail failure : Run α) post :=
  ⟨fun w _ => .refl S w, fun hpre _ _ halike _ => ⟨V, le_rfl, rfl, h hpre, halike⟩⟩

theorem ofExcept {result : Except Failure α} (h : pre → ResultWithin post V result) :
    Secure S V pre (MonadExcept.ofExcept result) post := by
  cases result with
  | ok a => exact .pure h
  | error failure => exact .fail h

/-- Something is done with the outcome of a computation, be it a result or a failure. It need only be secure for the
outcomes that there can be. -/
theorem afterwards {run : Run α} {next : Except Failure α → Run β} {whole : Run β} (h : Secure S V pre run post)
    (possible : Except Failure α → Prop) (hwhole : ∀ w, whole.start w = (next (run.start w).1).start (run.start w).2)
    (hpossible : ∀ w, possible (run.start w).1)
    (hnext : ∀ V', V ≤ V' → ∀ outcome, possible outcome →
      Secure S V' (pre ∧ ResultWithin post V' outcome) (next outcome) post') :
    Secure S V pre whole post' := by
  have hkeeps : whole.Keeps S := by
    intro w hw
    have hrun := h.keeps w hw
    rw [hwhole]
    exact hrun.trans ((hnext V le_rfl _ (hpossible w)).keeps _ (hrun.admits hw))
  refine ⟨hkeeps, fun hpre w w' halike hunread => ?_⟩
  have hadmits := (h.keeps w halike.admits).admits halike.admits
  rw [hwhole] at hunread
  -- what the rest reads in the end includes what the first step reads
  have hmid : (run.start w).2.Unread S :=
    hunread.of_extends ((hnext V le_rfl _ (hpossible w)).keeps _ hadmits)
  obtain ⟨V', hV, heq, hwithin, halike'⟩ := h.agrees hpre w w' halike hmid
  obtain ⟨V'', hV', hrest⟩ := (hnext V' hV _ (hpossible w)).agrees ⟨hpre, hwithin⟩ _ _ halike' hunread
  rw [hwhole, hwhole, heq]
  exact ⟨V'', hV.trans hV', hrest⟩

/-- What comes next need only be secure for results that the first step can give. -/
theorem bind_of_gives {run : Run α} {next : α → Run β} {good : α → Prop} (h : Secure S V pre run post)
    (hgives : Gives good run)
    (hnext : ∀ V', V ≤ V' → ∀ a, good a → Secure S V' (pre ∧ post V' a) (next a) post') :
    Secure S V pre (run >>= next) post' := by
  let after : Except Failure α → Run β
    | .ok a => next a
    | .error failure => Run.fail failure
  have hwhole (w : World) : (run >>= next).start w = (after (run.start w).1).start (run.start w).2 := by
    rw [start_bind]
    rcases run.start w with ⟨failure | a, w₁⟩ <;> rfl
  refine h.afterwards (fun outcome => ∀ a, outcome = .ok a → good a) hwhole ?_ fun V' hV outcome hgood => ?_
  · exact fun w a ha => hgives w a _ (Prod.ext ha rfl)
  cases outcome with
  | ok a => exact hnext V' hV a (hgood a rfl)
  | error failure => exact .fail And.right

theorem bind {run : Run α} {next : α → Run β} (h : Secure S V pre run post)
    (hnext : ∀ V', V ≤ V' → ∀ a, Secure S V' (pre ∧ post V' a) (next a) post') :
    Secure S V pre (run >>= next) post' :=
  h.bind_of_gives (fun _ _ _ _ => trivial) fun V' hV a (_ : True) => hnext V' hV a

theorem map {run : Run α} {f : α → β} (h : Secure S V pre run post)
    (hf : ∀ V' a, post V' a → post' V' (f a)) : Secure S V pre (f <$> run) post' := by
  rw [← bind_pure_comp]
  exact h.bind fun V' _ a => .pure fun hpre => hf V' a hpre.2

theorem orElse {run : Run α} {handler : Failure → Run α} (h : Secure S V pre run post)
    (hhandler : ∀ V', V ≤ V' → ∀ failure, Secure S V' (pre ∧ failure.Within V') (handler failure) post) :
    Secure S V pre (orElse run handler) post := by
  let after : Except Failure α → Run α
    | .ok a => Pure.pure a
    | .error failure => handler failure
  have hwhole (w : World) : (Run.orElse run handler).start w = (after (run.start w).1).start (run.start w).2 := by
    rw [start_orElse]
    rcases run.start w with ⟨failure | a, w₁⟩ <;> rfl
  refine h.afterwards (fun _ => True) hwhole (fun _ => trivial) fun V' hV outcome _ => ?_
  cases outcome with
  | ok a => exact .pure And.right
  | error failure => exact hhandler V' hV failure

/-- What a computation gives is not looked at. -/
theorem discard {run : Run α} (h : Secure S V pre run post) : Secure S V pre (do let _ ← run) Anything :=
  h.bind fun _ _ _ => .pure fun _ => trivial

/-- Some failures of a computation are taken for a result. -/
theorem forgive {run : Run α} {isForgiven : Failure → Bool} {a : α} (h : Secure S V pre run post)
    (ha : ∀ V', V ≤ V' → pre → post V' a) :
    Secure S V pre (Run.orElse run fun failure => if isForgiven failure then Pure.pure a else Run.fail failure)
      post := by
  refine .orElse h fun V' hV failure => ?_
  split
  · exact .pure fun hpre => ha V' hV hpre.1
  · exact .fail And.right

/-- Looking at the world is secure if alike worlds look the same. What comes next may rely on which classes functions
give. -/
theorem get_bind_of_admits {next : World → Run α}
    (hnext : ∀ w, w.Admits S → Secure S V (pre ∧ ∃ w', World.Alike S V w w') (next w) post)
    (heq : pre → ∀ w w', World.Alike S V w w' → next w' = next w) :
    Secure S V pre (get >>= next) post := by
  refine ⟨fun w hw => (hnext w hw).keeps w hw, fun hpre w w' halike hunread => ?_⟩
  have hsame : (get >>= next).start w' = (next w).start w' :=
    congrFun (heq hpre w w' halike) w'
  rw [hsame]
  exact (hnext w halike.admits).agrees ⟨hpre, w', halike⟩ w w' halike hunread

theorem get_bind {next : World → Run α}
    (hnext : ∀ w, Secure S V (pre ∧ ∃ w', World.Alike S V w w') (next w) post)
    (heq : pre → ∀ w w', World.Alike S V w w' → next w' = next w) :
    Secure S V pre (get >>= next) post :=
  .get_bind_of_admits (fun w _ => hnext w) heq

/-- A refusal is secure if it reads the same in alike worlds. -/
theorem refuse {text : World → String} (htext : pre → ∀ w w', World.Alike S V w w' → text w' = text w) :
    Secure S V pre (get >>= fun w => Run.fail (.typeError (text w))) post :=
  .get_bind (fun _ => .fail fun _ => Failure.within_typeError _) fun hpre w w' h => by rw [htext hpre w w' h]

/-- A change of the world is secure if it keeps alike worlds alike. -/
theorem change {change : World → World} (hkeeps : ∀ w : World, w.Extends S (change w))
    (halike : pre → ∀ w w', World.Alike S V w w' → ∃ V', V ≤ V' ∧ World.Alike S V' (change w) (change w')) :
    Secure S V pre (modify change) Anything := by
  refine ⟨fun w _ => hkeeps w, fun hpre w w' h _ => ?_⟩
  obtain ⟨V', hV, h'⟩ := halike hpre w w' h
  exact ⟨V', hV, rfl, trivial, h'⟩

/-- A function reads an attribute: what is done next may rely on that it is no secret. -/
theorem noteRead_bind {target : Value} {name : String} {next : Run α}
    (h : Secure S V (pre ∧ S.SparesValue target name) next post) :
    Secure S V pre (do modify (·.noteRead target name); next) post := by
  have hnote (w : World) : w.Extends S (w.noteRead target name) :=
    { World.Extends.refl S w with reads := List.prefix_append _ _ }
  have hkeeps (w : World) (hw : w.Admits S) := h.keeps _ ((hnote w).admits hw)
  refine ⟨fun w hw => (hnote w).trans (hkeeps w hw), fun hpre w w' halike hunread => ?_⟩
  have hread : (w.noteRead target name).Unread S := hunread.of_extends (hkeeps w halike.admits)
  have hspares : S.SparesValue target name := by
    rintro id rfl
    exact hread id name (by simp [World.noteRead])
  have hnoted : World.Alike S V (w.noteRead target name) (w'.noteRead target name) :=
    halike.note (hnote w) (hnote w') rfl rfl halike.done halike.calls
      (by rw [World.noteRead, World.noteRead, halike.reads])
  exact h.agrees ⟨hpre, hspares⟩ _ _ hnoted hunread

/-- Something is done for each of several things. -/
theorem forM {items : List β} {f : β → Run PUnit}
    (h : ∀ V', V ≤ V' → ∀ b ∈ items, Secure S V' pre (f b) Anything) :
    Secure S V pre (items.forM f) Anything := by
  induction items generalizing V with
  | nil => exact .pure fun _ => trivial
  | cons item items ih =>
    show Secure S V pre (f item >>= fun _ => items.forM f) Anything
    refine (h V le_rfl item (by simp)).bind fun V' hV _ => ?_
    have hrest := ih fun V'' hV' b hb => h V'' (hV.trans hV') b (List.mem_cons_of_mem _ hb)
    exact hrest.of And.left

/-- A loop goes through several things. -/
theorem forIn {items : List β} {f : β → PUnit → Run (ForInStep PUnit)}
    (h : ∀ V', V ≤ V' → ∀ b ∈ items, Secure S V' pre (f b ⟨⟩) Anything) :
    Secure S V pre (ForIn.forIn items ⟨⟩ f) Anything := by
  induction items generalizing V with
  | nil => exact .pure fun _ => trivial
  | cons item items ih =>
    rw [List.forIn_cons]
    refine (h V le_rfl item (by simp)).bind fun V' hV step => ?_
    split
    · exact .pure fun _ => trivial
    · have hrest := ih fun V'' hV' b hb => h V'' (hV.trans hV') b (List.mem_cons_of_mem _ hb)
      exact hrest.of And.left

/-- Something is made of each of several things. -/
theorem mapM {items : List β} {f : β → Run α}
    (h : ∀ V', V ≤ V' → ∀ b ∈ items, Secure S V' pre (f b) Anything) :
    Secure S V pre (items.mapM f) Anything := by
  induction items generalizing V with
  | nil => exact .pure fun _ => trivial
  | cons item items ih =>
    rw [List.mapM_cons]
    refine (h V le_rfl item (by simp)).bind fun V' hV _ => ?_
    have hrest := ih fun V'' hV' b hb => h V'' (hV.trans hV') b (List.mem_cons_of_mem _ hb)
    exact (hrest.of And.left).bind fun _ _ _ => .pure fun _ => trivial

end Secure

end Run

end SqlTemplate
