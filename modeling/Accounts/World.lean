import Accounts.Business.Plugin
import Accounts.Store.Layered
import Accounts.Store.Memory

/-!
# Worlds

A world holds any number of databases and of delegates, each known by its number. All of them
are empty at first.
-/

namespace Accounts

abbrev Databases := Nat → Database

structure World where
  databases : Databases
  delegates : Nat → Delegate Databases

namespace World

def empty : World :=
  ⟨fun _ => .empty, fun _ => .empty⟩

instance : Inhabited World := ⟨empty⟩

/-- A function with another value at one number. -/
def update {α : Type} (f : Nat → α) (n : Nat) (a : α) : Nat → α := fun k =>
  if k = n then a else f k

def database (n : Nat) : Slot World Database where
  get w := w.databases n
  set d w := { w with databases := update w.databases n d }

/-- A delegate and the databases, on which its subscribers work. -/
def exchange (n : Nat) : Slot World (Exchange Databases) where
  get w := ⟨w.delegates n, w.databases⟩
  set x w := ⟨x.surroundings, update w.delegates n x.delegate⟩

theorem database_lawful (n : Nat) : (database n).Lawful where
  get_set d w := by simp [database, update]
  set_get w := by
    have h : update w.databases n (w.databases n) = w.databases := by
      funext k
      by_cases hk : k = n <;> simp [update, hk]
    simp [database, h]
  set_set a b w := by
    have h : update (update w.databases n b) n a = update w.databases n a := by
      funext k
      by_cases hk : k = n <;> simp [update, hk]
    simp [database, h]

theorem exchange_lawful (n : Nat) : (exchange n).Lawful where
  get_set x w := by simp [exchange, update]
  set_get w := by
    have h : update w.delegates n (w.delegates n) = w.delegates := by
      funext k
      by_cases hk : k = n <;> simp [update, hk]
    simp [exchange, h]
  set_set a b w := by
    have h : update (update w.delegates n b.delegate) n a.delegate =
        update w.delegates n a.delegate := by
      funext k
      by_cases hk : k = n <;> simp [update, hk]
    simp [exchange, h]

/-- The store of the shared rows of a database. -/
def store (n : Nat) : MemoryStore World :=
  .shared n (database n)

end World

/-- A store in memory with layers around it. -/
abbrev World.Store := LayeredStore (MemoryStore World)

/-- The business over such a store, with layers around it. -/
abbrev World.Bus := Layered (Service World.Store (Outlet World Databases))

end Accounts
