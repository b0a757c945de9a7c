import ItemTable.Store.Script

set_option autoImplicit false

/-! # Rounds of a program

A round is a request together with its answer. `Program.Yields` says which rounds a program can make
and how it ends after them, whatever a store answers; it takes the place of a store in proofs.
`Program.rounds` are the rounds of one run, and rounds that the program can make
(`Program.yields_rounds`).

A run reads at most as many pages as the store's supply allows. That is no bound on a store that is
`Store.IsSupplied`, as a scripted store is: a reading that succeeds then ends with a page after
which no other is wanted (`Store.readPages_ends`). -/

namespace ItemTable

/-- A request and its answer. -/
structure Round where
  request : Request
  answer : Except StoreError request.Answer

namespace Round

/-- The update that a round asks for. -/
def update? (round : Round) : Option UpdateRequest :=
  match round.request with
  | .update request => some request
  | _ => none

theorem exists_update_at {rounds : List Round} {i : Nat}
    (h : (rounds[i]?.bind update?).isSome = true) : ∃ before round after request,
      rounds = before ++ round :: after ∧ before.length = i ∧ round.request = .update request := by
  obtain ⟨request, hrequest⟩ := Option.isSome_iff_exists.1 h
  obtain ⟨round, hround, hupdate⟩ := Option.bind_eq_some_iff.1 hrequest
  obtain ⟨hi, rfl⟩ := List.getElem?_eq_some_iff.1 hround
  refine ⟨rounds.take i, rounds[i], rounds.drop (i + 1), request, ?_, ?_, ?_⟩
  · rw [← List.drop_eq_getElem_cons hi, List.take_append_drop]
  · exact List.length_take_of_le (Nat.le_of_lt hi)
  · unfold update? at hupdate
    split at hupdate
    · rename_i request' hrequest'
      rw [hrequest', Option.some.inj hupdate]
    · cases hupdate

end Round

/-! ## Rounds in which pages are read -/

/-- The rounds of reading page after page from a start, and what comes of them. -/
inductive PagesRead (read : Option Item → PageRequest) (isWanted : Page → Bool) :
    Option Item → List Round → Except StoreError (List Page) → Prop
  /-- The store has no more pages to give. -/
  | nothing (start : Option Item) : PagesRead read isWanted start [] (.ok [])
  | failed (start : Option Item) (fault : StoreError) :
    PagesRead read isWanted start [⟨.page (read start), .error fault⟩] (.error fault)
  | last (start : Option Item) (page : Page) (h : page.last = none ∨ isWanted page = false) :
    PagesRead read isWanted start [⟨.page (read start), .ok page⟩] (.ok [page])
  | more (start : Option Item) (next : Item) (page : Page) (rounds : List Round)
    (answer : Except StoreError (List Page)) (hnext : page.last = some next)
    (hwanted : isWanted page = true) (h : PagesRead read isWanted (some next) rounds answer) :
    PagesRead read isWanted start (⟨.page (read start), .ok page⟩ :: rounds)
      (answer.map (page :: ·))

namespace Store

variable {σ : Type}

/-- The rounds of reading at most `fuel` pages, the first from `start`. -/
def pageRounds (store : Store σ) (read : Option Item → PageRequest) (isWanted : Page → Bool) :
    Nat → Option Item → σ → List Round
  | 0, _, _ => []
  | fuel + 1, start, state =>
    match store.answer (.page (read start)) state with
    | (.error e, _) => [⟨.page (read start), .error e⟩]
    | (.ok page, state) =>
      match page.last, isWanted page with
      | some next, true =>
        ⟨.page (read start), .ok page⟩ :: pageRounds store read isWanted fuel (some next) state
      | _, _ => [⟨.page (read start), .ok page⟩]

theorem pagesRead_pageRounds (store : Store σ) (read : Option Item → PageRequest)
    (isWanted : Page → Bool) (fuel : Nat) (start : Option Item) (state : σ) :
    PagesRead read isWanted start (store.pageRounds read isWanted fuel start state)
      (store.readPages read isWanted fuel start state).1 := by
  induction fuel generalizing start state with
  | zero => exact .nothing start
  | succ fuel ih =>
    simp only [pageRounds, readPages]
    rcases store.answer (.page (read start)) state with ⟨fault | page, after⟩
    · exact .failed start fault
    · dsimp only
      cases hlast : page.last with
      | none => exact .last start page (.inl hlast)
      | some next =>
        cases hwanted : isWanted page with
        | false => exact .last start page (.inr hwanted)
        | true =>
          -- only here is another page read, with the fuel that is left
          have h := PagesRead.more start next page _ _ hlast hwanted (ih (some next) after)
          rcases hrest : store.readPages read isWanted fuel (some next) after
            with ⟨fault | pages, final⟩ <;> simpa [hrest, Except.map] using h

/-! ## The supply of pages -/

/-- Every page that a store gives leaves it a smaller supply. -/
def IsSupplied (store : Store σ) : Prop :=
  ∀ (read : PageRequest) (state after : σ) (page : Page),
    store.answer (.page read) state = (.ok page, after) → store.supply after < store.supply state

theorem isSupplied_scripted : scripted.IsSupplied := by
  rintro read ⟨replies, requests⟩ after page h
  cases replies with
  | nil => cases h
  | cons reply rest =>
    have hafter : (⟨rest, requests ++ [.page read]⟩ : Script) = after := congrArg Prod.snd h
    subst hafter
    exact Nat.lt_succ_self rest.length

/-- A reading that succeeds ends with the last page, or with one after which no other is wanted. It
never ends because the bound on its pages is reached. -/
theorem readPages_ends {store : Store σ} (hstore : store.IsSupplied)
    {read : Option Item → PageRequest} {isWanted : Page → Bool} {fuel : Nat} {start : Option Item}
    {state after : σ} {pages : List Page} (hfuel : store.supply state < fuel)
    (h : store.readPages read isWanted fuel start state = (.ok pages, after)) :
    ∃ before final, pages = before ++ [final] ∧ (final.last = none ∨ isWanted final = false) := by
  induction fuel generalizing start state after pages with
  | zero => omega
  | succ fuel ih =>
    simp only [readPages] at h
    split at h
    next => cases h
    next page between hpage =>
      split at h
      next next hlast hwanted =>
        have hbetween : store.supply between < store.supply state := hstore _ _ _ _ hpage
        have hfuel : store.supply between < fuel := by omega
        split at h
        next others last hothers =>
          obtain ⟨before, final, rfl, hfinal⟩ := ih hfuel hothers
          obtain rfl : page :: (before ++ [final]) = pages := Except.ok.inj (congrArg Prod.fst h)
          exact ⟨page :: before, final, rfl, hfinal⟩
        next => cases h
      next hends =>
        obtain rfl : [page] = pages := Except.ok.inj (congrArg Prod.fst h)
        refine ⟨[], page, rfl, ?_⟩
        cases hlast : page.last with
        | none => exact .inl rfl
        | some next => exact .inr (Bool.eq_false_iff.2 (hends next hlast))

end Store

/-! ## Rounds of a whole program -/

namespace Program

variable {α β σ : Type}

/-- A program can make these rounds and end with this result. -/
inductive Yields : Program α → List Round → Except Error α → Prop
  | done (result : Except Error α) : Yields (.done result) [] result
  | call {request : Request} {next : Except StoreError request.Answer → Program α}
    {answer : Except StoreError request.Answer} {rounds : List Round} {result : Except Error α}
    (h : Yields (next answer) rounds result) :
    Yields (.call request next) (⟨request, answer⟩ :: rounds) result
  | pages {read : Option Item → PageRequest} {isWanted : Page → Bool}
    {next : Except StoreError (List Page) → Program α} {pages rounds : List Round}
    {answer : Except StoreError (List Page)} {result : Except Error α}
    (hpages : PagesRead read isWanted none pages answer)
    (h : Yields (next answer) rounds result) :
    Yields (.pages read isWanted next) (pages ++ rounds) result

/-- The rounds of a program's run against a store in a state. -/
def rounds (store : Store σ) : Program α → σ → List Round
  | .done _, _ => []
  | .call request next, state =>
    let (answer, state) := store.answer request state
    ⟨request, answer⟩ :: (next answer).rounds store state
  | .pages read isWanted next, state =>
    let fuel := store.supply state + 1
    let (answer, after) := store.readPages read isWanted fuel none state
    store.pageRounds read isWanted fuel none state ++ (next answer).rounds store after

/-- A run makes rounds that the program can make, and ends as the program then does. -/
theorem yields_rounds (store : Store σ) (p : Program α) (state : σ) :
    p.Yields (p.rounds store state) (p.run store state).1 := by
  induction p generalizing state with
  | done result => exact .done result
  | call request next ih => exact .call (ih _ _)
  | pages read isWanted next ih =>
    exact .pages (store.pagesRead_pageRounds read isWanted _ none state) (ih _ _)

/-! ## Rounds of the parts of a program -/

theorem yields_done {r result : Except Error α} {rounds : List Round} :
    (done r).Yields rounds result ↔ rounds = [] ∧ result = r := by
  constructor
  · intro h
    cases h
    exact ⟨rfl, rfl⟩
  · rintro ⟨rfl, rfl⟩
    exact .done _

theorem yields_pure {a : α} {result : Except Error α} {rounds : List Round} :
    (pure a : Program α).Yields rounds result ↔ rounds = [] ∧ result = .ok a := yields_done

theorem yields_fail {e : Error} {result : Except Error α} {rounds : List Round} :
    (fail e : Program α).Yields rounds result ↔ rounds = [] ∧ result = .error e := yields_done

theorem yields_convert {r : Except ConversionError α} {result : Except Error α}
    {rounds : List Round} :
    (convert r).Yields rounds result ↔ rounds = [] ∧ result = r.mapError .conversion := by
  cases r with
  | ok a => exact yields_done
  | error e => exact yields_done

theorem yields_attempt {request : Request}
    {result : Except Error (Except StoreError request.Answer)} {rounds : List Round} :
    (attempt request).Yields rounds result ↔
      ∃ answer, rounds = [⟨request, answer⟩] ∧ result = .ok answer := by
  constructor
  · rintro (_ | ⟨_ | _⟩)
    exact ⟨_, rfl, rfl⟩
  · rintro ⟨answer, rfl, rfl⟩
    exact .call (.done _)

theorem yields_ask {request : Request} {result : Except Error request.Answer}
    {rounds : List Round} :
    (ask request).Yields rounds result ↔
      ∃ answer, rounds = [⟨request, answer⟩] ∧ result = answer.mapError .store := by
  constructor
  · rintro (_ | ⟨_ | _⟩)
    exact ⟨_, rfl, rfl⟩
  · rintro ⟨answer, rfl, rfl⟩
    exact .call (.done _)

theorem yields_askPages {read : Option Item → PageRequest} {isWanted : Page → Bool}
    {result : Except Error (List Page)} {rounds : List Round} :
    (askPages read isWanted).Yields rounds result ↔
      ∃ answer, PagesRead read isWanted none rounds answer ∧ result = answer.mapError .store := by
  constructor
  · rintro (_ | _ | ⟨hpages, ⟨_⟩⟩)
    exact ⟨_, by simpa using hpages, rfl⟩
  · rintro ⟨answer, hpages, rfl⟩
    have h : (askPages read isWanted).Yields (rounds ++ []) (answer.mapError .store) :=
      .pages hpages (.done _)
    rwa [List.append_nil] at h

/-- A program in two parts fails in the first part, or makes the rounds of both. -/
theorem yields_bind {p : Program α} {f : α → Program β} {result : Except Error β}
    {rounds : List Round} :
    (p >>= f).Yields rounds result ↔
      (∃ e, p.Yields rounds (.error e) ∧ result = .error e) ∨
      ∃ a first second, p.Yields first (.ok a) ∧ (f a).Yields second result ∧
        rounds = first ++ second := by
  change (p.bind f).Yields rounds result ↔ _
  induction p generalizing rounds with
  | done r =>
    cases r with
    | error e =>
      simp only [bind, yields_done, reduceCtorEq, and_false, false_and, exists_false, or_false]
      constructor
      · rintro ⟨rfl, rfl⟩
        exact ⟨e, ⟨rfl, rfl⟩, rfl⟩
      · rintro ⟨_, ⟨rfl, he⟩, rfl⟩
        cases he
        exact ⟨rfl, rfl⟩
    | ok a =>
      simp only [bind, yields_done, reduceCtorEq, and_false, false_and, exists_false, false_or]
      constructor
      · intro h
        exact ⟨a, [], rounds, ⟨rfl, rfl⟩, h, rfl⟩
      · rintro ⟨_, _, second, ⟨rfl, ha⟩, h, rfl⟩
        cases ha
        exact h
  | call request next ih =>
    constructor
    · rintro (_ | h)
      rcases (ih _).1 h with ⟨e, he, rfl⟩ | ⟨a, first, second, ha, hf, rfl⟩
      · exact .inl ⟨e, .call he, rfl⟩
      · exact .inr ⟨a, _, second, .call ha, hf, rfl⟩
    · rintro (⟨e, h, rfl⟩ | ⟨a, first, second, h, hf, rfl⟩)
      · cases h with
        | call h => exact .call ((ih _).2 (.inl ⟨e, h, rfl⟩))
      · cases h with
        | call h => exact .call ((ih _).2 (.inr ⟨a, _, second, h, hf, rfl⟩))
  | pages read isWanted next ih =>
    constructor
    · rintro (_ | _ | ⟨hpages, h⟩)
      rcases (ih _).1 h with ⟨e, he, rfl⟩ | ⟨a, first, second, ha, hf, rfl⟩
      · exact .inl ⟨e, .pages hpages he, rfl⟩
      · exact .inr ⟨a, _, second, .pages hpages ha, hf, (List.append_assoc ..).symm⟩
    · rintro (⟨e, h, rfl⟩ | ⟨a, first, second, h, hf, rfl⟩)
      · cases h with
        | pages hpages h => exact .pages hpages ((ih _).2 (.inl ⟨e, h, rfl⟩))
      · cases h with
        | pages hpages h =>
          rw [List.append_assoc]
          exact .pages hpages ((ih _).2 (.inr ⟨a, _, second, h, hf, rfl⟩))

/-- A result that needs no store goes into the rest of a program, or ends it. -/
theorem yields_ofExcept_bind {r : Except Error α} {f : α → Program β} {result : Except Error β}
    {rounds : List Round} :
    (ofExcept r >>= f).Yields rounds result ↔
      (∃ e, r = .error e ∧ rounds = [] ∧ result = .error e) ∨
      ∃ a, r = .ok a ∧ (f a).Yields rounds result := by
  cases r with
  | error e =>
    have h : (ofExcept (.error e) >>= f : Program β) = fail e := rfl
    simp [h, yields_fail]
  | ok a =>
    have h : (ofExcept (.ok a) >>= f : Program β) = f a := rfl
    simp [h]

theorem yields_convert_bind {r : Except ConversionError α} {f : α → Program β}
    {result : Except Error β} {rounds : List Round} :
    (convert r >>= f).Yields rounds result ↔
      (∃ e, r = .error e ∧ rounds = [] ∧ result = .error (.conversion e)) ∨
      ∃ a, r = .ok a ∧ (f a).Yields rounds result := by
  cases r with
  | error e =>
    have h : (convert (.error e) >>= f : Program β) = fail (.conversion e) := rfl
    simp [h, yields_fail]
  | ok a =>
    have h : (convert (.ok a) >>= f : Program β) = f a := rfl
    simp [h]

/-- A program that only computes makes no rounds. -/
theorem rounds_eq_nil_of_convert {γ : Type} {r : Except ConversionError α} {g : α → γ}
    {result : Except Error γ} {rounds : List Round}
    (h : (convert r >>= fun a => pure (g a)).Yields rounds result) : rounds = [] := by
  rcases yields_convert_bind.1 h with ⟨e, -, hrounds, -⟩ | ⟨a, -, h⟩
  · exact hrounds
  · exact (yields_pure.1 h).1

/-- A request that has to succeed makes the first round, and the others come after its answer. -/
theorem rounds_ask_bind (store : Store σ) (request : Request) (f : request.Answer → Program β)
    (state : σ) :
    (ask request >>= f).rounds store state =
      ⟨request, (store.answer request state).1⟩ ::
        match (store.answer request state).1 with
        | .ok a => (f a).rounds store (store.answer request state).2
        | .error _ => [] := by
  have hrounds : (ask request >>= f).rounds store state =
      ⟨request, (store.answer request state).1⟩ ::
        ((done ((store.answer request state).1.mapError .store)).bind f).rounds store
          (store.answer request state).2 := rfl
  rw [hrounds]
  cases (store.answer request state).1 <;> rfl

/-- The first round of a program that starts with a request. -/
theorem yields_attempt_bind {request : Request}
    {f : Except StoreError request.Answer → Program β} {result : Except Error β}
    {rounds : List Round} :
    (attempt request >>= f).Yields rounds result ↔
      ∃ answer rest, rounds = ⟨request, answer⟩ :: rest ∧ (f answer).Yields rest result := by
  simp only [yields_bind, yields_attempt]
  constructor
  · rintro (⟨e, ⟨_, _, he⟩, _⟩ | ⟨answer, _, second, ⟨_, rfl, ha⟩, h, rfl⟩)
    · cases he
    · cases ha
      exact ⟨answer, second, rfl, h⟩
  · rintro ⟨answer, rest, rfl, h⟩
    exact .inr ⟨answer, _, rest, ⟨answer, rfl, rfl⟩, h, rfl⟩

/-- A request that has to succeed fails, or its answer goes into the rest of a program. -/
theorem yields_ask_bind {request : Request} {f : request.Answer → Program β}
    {result : Except Error β} {rounds : List Round} :
    (ask request >>= f).Yields rounds result ↔
      (∃ fault, rounds = [⟨request, .error fault⟩] ∧ result = .error (.store fault)) ∨
      ∃ a rest, rounds = ⟨request, .ok a⟩ :: rest ∧ (f a).Yields rest result := by
  simp only [yields_bind, yields_ask]
  constructor
  · rintro (⟨e, ⟨fault | _, rfl, he⟩, rfl⟩ | ⟨a, _, second, ⟨_ | _, rfl, ha⟩, h, rfl⟩)
    · cases he
      exact .inl ⟨fault, rfl, rfl⟩
    · cases he
    · cases ha
    · cases ha
      exact .inr ⟨a, second, rfl, h⟩
  · rintro (⟨fault, rfl, rfl⟩ | ⟨a, rest, rfl, h⟩)
    · exact .inl ⟨_, ⟨.error fault, rfl, rfl⟩, rfl⟩
    · exact .inr ⟨a, _, rest, ⟨.ok a, rfl, rfl⟩, h, rfl⟩

end Program

end ItemTable
