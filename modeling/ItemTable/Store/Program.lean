import ItemTable.Error
import ItemTable.Store.Request

set_option autoImplicit false

/-! # Programs over a store

An operation on a table is a `Program`: a tree of the requests that it makes, with a branch for
every answer. A program that reads page after page says so in one node, since nothing bounds the
number of pages. `Program.run` plays a program against a store. -/

namespace ItemTable

/-- A computation that asks a store and ends with a result or an error. -/
inductive Program (α : Type) : Type
  | done (result : Except Error α)
  | call (request : Request) (next : Except StoreError request.Answer → Program α)
  /-- Reads pages, each from where the one before ends, until one is the last or is not wanted. -/
  | pages (read : Option Item → PageRequest) (isWanted : Page → Bool)
      (next : Except StoreError (List Page) → Program α)

namespace Program

variable {α β : Type}

/-- The program that fails at once. -/
def fail (error : Error) : Program α := .done (.error error)

/-- The program that goes on with the result of the first one. -/
def bind : Program α → (α → Program β) → Program β
  | .done (.ok a), f => f a
  | .done (.error e), _ => .done (.error e)
  | .call request next, f => .call request fun answer => (next answer).bind f
  | .pages read isWanted next, f => .pages read isWanted fun answer => (next answer).bind f

instance : Monad Program where
  pure a := .done (.ok a)
  bind := bind

theorem pure_bind (a : α) (f : α → Program β) : (pure a : Program α) >>= f = f a := rfl

theorem bind_pure (p : Program α) : p >>= pure = p := by
  change p.bind pure = p
  induction p with
  | done result => cases result <;> rfl
  | call request next ih => exact congrArg (call request) (funext ih)
  | pages read isWanted next ih => exact congrArg (pages read isWanted) (funext ih)

theorem bind_assoc {γ : Type} (p : Program α) (f : α → Program β) (g : β → Program γ) :
    p >>= f >>= g = p >>= fun a => f a >>= g := by
  change (p.bind f).bind g = p.bind fun a => (f a).bind g
  induction p with
  | done result => cases result <;> rfl
  | call request next ih => exact congrArg (call request) (funext ih)
  | pages read isWanted next ih => exact congrArg (pages read isWanted) (funext ih)

instance : LawfulMonad Program :=
  LawfulMonad.mk' Program bind_pure pure_bind bind_assoc

/-- A result that needs no store. -/
def ofExcept : Except Error α → Program α := .done

/-- A conversion that needs no store. -/
def convert : Except ConversionError α → Program α
  | .ok a => .done (.ok a)
  | .error e => fail (.conversion e)

/-- The answer to a request, whatever it is. -/
def attempt (request : Request) : Program (Except StoreError request.Answer) :=
  .call request fun answer => .done (.ok answer)

/-- The answer to a request that has to succeed. -/
def ask (request : Request) : Program request.Answer :=
  .call request fun answer => .done (answer.mapError .store)

/-- The pages of a read that has to succeed. -/
def askPages (read : Option Item → PageRequest) (isWanted : Page → Bool) : Program (List Page) :=
  .pages read isWanted fun answer => .done (answer.mapError .store)

end Program

/-- A store with states `σ`: how it answers, and a bound on the pages that it can still give. -/
structure Store (σ : Type) where
  answer : (request : Request) → σ → Except StoreError request.Answer × σ
  supply : σ → Nat

namespace Store

variable {σ : Type}

/-- At most `fuel` pages, the first from `start`. -/
def readPages (store : Store σ) (read : Option Item → PageRequest) (isWanted : Page → Bool) :
    Nat → Option Item → σ → Except StoreError (List Page) × σ
  | 0, _, state => (.ok [], state)
  | fuel + 1, start, state =>
    match store.answer (.page (read start)) state with
    | (.error e, state) => (.error e, state)
    | (.ok page, state) =>
      match page.last, isWanted page with
      | some next, true =>
        match readPages store read isWanted fuel (some next) state with
        | (.ok pages, state) => (.ok (page :: pages), state)
        | (.error e, state) => (.error e, state)
      | _, _ => (.ok [page], state)

end Store

/-- Plays a program against a store in a state. -/
def Program.run {α σ : Type} (store : Store σ) : Program α → σ → Except Error α × σ
  | .done result, state => (result, state)
  | .call request next, state =>
    let (answer, state) := store.answer request state
    (next answer).run store state
  | .pages read isWanted next, state =>
    let (answer, state) := store.readPages read isWanted (store.supply state + 1) none state
    (next answer).run store state

/-- A program runs as its parts do, one after the other; the first error ends the run. -/
theorem Program.run_bind {α β σ : Type} (store : Store σ) (p : Program α) (f : α → Program β)
    (state : σ) :
    (p >>= f).run store state =
      match p.run store state with
      | (.ok a, state) => (f a).run store state
      | (.error e, state) => (.error e, state) := by
  change (p.bind f).run store state = _
  induction p generalizing state with
  | done result => cases result <;> rfl
  | call request next ih => exact ih _ _
  | pages read isWanted next ih => exact ih _ _

end ItemTable
