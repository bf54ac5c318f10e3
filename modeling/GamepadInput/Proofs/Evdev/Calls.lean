import GamepadInput.Evdev.Session

/-!
# Calls that no reader interrupts

A call of the consumer whose steps follow one another without a step of a reader between them does
what the backend does in one go.
-/

namespace GamepadInput.Evdev

/-- The step is the consumer's. -/
def Step.isConsumer : Step → Bool
  | .read .. | .send _ => false
  | _ => true

namespace Session

/-- Steps of the consumer alone take a session to another, and let some notices be heard. -/
def Does (session : Session) (next : Session) (notices : List Notice) : Prop :=
  ∃ steps started, steps.all Step.isConsumer = true ∧
    session.run? steps = some ⟨next, notices, [], started⟩

variable {session next last : Session} {notices others : List Notice}

theorem Does.refl (session : Session) : session.Does session [] := ⟨[], [], rfl, rfl⟩

theorem Does.step {step : Step} {started : List DeviceId} (mine : step.isConsumer = true)
    (taken : session.step? step = some ⟨next, notices, [], started⟩)
    (rest : next.Does last others) : session.Does last (notices ++ others) := by
  obtain ⟨steps, more, consumers, ran⟩ := rest
  refine ⟨step :: steps, started ++ more, by simp [mine, consumers], ?_⟩
  simp [run?, taken, ran]

/-! ## Detection -/

/-- What was heard before does not matter to how an entry is looked at. -/
theorem look_notices (directory : String) (lastScan : Option Time) (known retry : List String)
    (registry : Registry Node) (notices : List Notice) (listed : Listed) :
    Backend.Scan.look directory lastScan known ⟨registry, retry, notices⟩ listed =
      let looked := Backend.Scan.look directory lastScan known ⟨registry, retry, []⟩ listed
      (⟨looked.1.registry, looked.1.retry, notices⟩, looked.2) := by
  simp only [Backend.Scan.look]
  split
  · rfl
  · split
    · rfl
    · split
      · rfl
      · simp only [Backend.Scan.openNode]
        split
        · rfl
        · split <;> rfl

theorem detecting_does (backend : Backend) (now : Time) (retry : List String)
    (notices : List Notice) (listing : List Listed) :
    let scan := listing.foldl
      (Backend.Scan.examine backend.directory backend.lastScan backend.retry)
      ⟨backend.registry, retry, notices⟩
    ∃ heard, scan.notices = notices ++ heard ∧
      Does ⟨backend, .detecting now retry none⟩
        ⟨{ backend with registry := scan.registry, retry := scan.retry, lastScan := some now },
          .idle⟩ heard := by
  induction listing generalizing backend retry notices with
  | nil =>
    have taken : (⟨backend, .detecting now retry none⟩ : Session).step? .endDetect =
      some (.silent ⟨{ backend with retry, lastScan := some now }, .idle⟩) := rfl
    exact ⟨[], (List.append_nil _).symm, .step rfl taken (.refl _)⟩
  | cons listed rest ih =>
    simp only [List.foldl_cons, Backend.Scan.examine]
    rw [look_notices]
    have quiet := look_notices backend.directory backend.lastScan backend.retry retry
      backend.registry [] listed
    cases looked : Backend.Scan.look backend.directory backend.lastScan backend.retry
        ⟨backend.registry, retry, []⟩ listed with
    | mk scan opened? =>
      rw [looked] at quiet
      have silent : scan.notices = [] := congrArg (fun looked => looked.1.notices) quiet
      have taken : (⟨backend, .detecting now retry none⟩ : Session).step? (.examine listed) =
          some ⟨⟨{ backend with registry := scan.registry }, .detecting now scan.retry opened?⟩,
            [], [], opened?.toList⟩ := by
        simp [step?, examine?, looked, silent]
      cases opened? with
      | none =>
        obtain ⟨heard, told, does⟩ :=
          ih { backend with registry := scan.registry } scan.retry notices
        exact ⟨heard, told, .step rfl taken does⟩
      | some id =>
        have announced : (⟨{ backend with registry := scan.registry },
            .detecting now scan.retry (some id)⟩ : Session).step? .announce =
          some ⟨⟨{ backend with registry := (scan.registry.dispatch (.attached id)).registry },
              .detecting now scan.retry none⟩,
            (scan.registry.dispatch (.attached id)).notice.toList, [], []⟩ := rfl
        obtain ⟨heard, told, does⟩ :=
          ih { backend with registry := (scan.registry.dispatch (.attached id)).registry }
            scan.retry (notices ++ (scan.registry.dispatch (.attached id)).notice.toList)
        have onward := Does.step rfl taken (.step rfl announced does)
        exact ⟨_, told.trans (List.append_assoc ..), onward⟩

theorem detect_does (backend : Backend) (sighting : Sighting) :
    (ofBackend backend).Does (ofBackend (backend.detect sighting).1)
      (backend.detect sighting).2 := by
  have taken : (ofBackend backend).step? (.beginDetect sighting.now sighting.listing?.isSome) =
      some (.silent (if backend.initialized then
          if sighting.listing?.isSome then ⟨backend, .detecting sighting.now [] none⟩
          else ⟨{ backend with lastScan := some sighting.now }, .idle⟩
        else ofBackend backend)) := rfl
  unfold Backend.detect
  split
  · rename_i started
    rw [if_pos started] at taken
    unfold Backend.scan
    split
    · rename_i unlisted
      simp only [unlisted] at taken
      exact .step rfl taken (.refl _)
    · rename_i listing listed
      simp only [listed] at taken
      obtain ⟨heard, told, does⟩ := detecting_does backend sighting.now [] [] listing
      rw [List.nil_append] at told
      subst told
      exact .step rfl taken does
  · rename_i unstarted
    rw [if_neg unstarted] at taken
    exact .step rfl taken (.refl _)

/-! ## Processing -/

theorem processing_does (backend : Backend) (batch : List Event) :
    Does ⟨backend, .processing batch⟩
      ⟨{ backend with registry := (backend.registry.dispatchAll batch).1 }, .idle⟩
      (Dispatch.notices (backend.registry.dispatchAll batch).2) := by
  induction batch generalizing backend with
  | nil =>
    have taken : (⟨backend, .processing []⟩ : Session).step? .endProcess =
      some (.silent ⟨backend, .idle⟩) := rfl
    exact .step rfl taken (.refl _)
  | cons event rest ih =>
    have taken : (⟨backend, .processing (event :: rest)⟩ : Session).step? .deliver =
      some ⟨⟨{ backend with registry := (backend.registry.dispatch event).registry },
        .processing rest⟩, (backend.registry.dispatch event).notice.toList, [], []⟩ := rfl
    have onward := ih { backend with registry := (backend.registry.dispatch event).registry }
    simpa [Registry.dispatchAll] using Does.step rfl taken onward

theorem process_does (backend : Backend) :
    (ofBackend backend).Does (ofBackend backend.process.1) backend.process.2 := by
  have taken : (ofBackend backend).step? .beginProcess = some (.silent
      (if backend.initialized then
          ⟨{ backend with queue := .empty }, .processing backend.queue.events⟩
        else ofBackend backend)) := rfl
  unfold Backend.process
  split
  · rename_i started
    rw [if_pos started] at taken
    exact .step rfl taken (processing_does _ _)
  · rename_i unstarted
    rw [if_neg unstarted] at taken
    exact .step rfl taken (.refl _)

/-! ## Shutdown -/

theorem stopping_does (backend : Backend) (entries : List (Entry Node)) :
    Does ⟨backend, .stopping entries⟩ (ofBackend backend.reset) [] := by
  induction entries with
  | nil =>
    have taken : (⟨backend, .stopping []⟩ : Session).step? .endShutdown =
      some (.silent (ofBackend backend.reset)) := rfl
    exact .step rfl taken (.refl _)
  | cons entry rest ih =>
    have taken : (⟨backend, .stopping (entry :: rest)⟩ : Session).step? .stop =
      some (.silent ⟨backend, .stopping rest⟩) := rfl
    exact .step rfl taken ih

theorem shutdown_does (backend : Backend) :
    (ofBackend backend).Does (ofBackend backend.shutdown) [] := by
  have taken : (ofBackend backend).step? .beginShutdown =
    some (.silent ⟨backend.drain.1, .stopping backend.drain.2⟩) := rfl
  exact .step rfl taken (stopping_does _ _)

end Session

end GamepadInput.Evdev
