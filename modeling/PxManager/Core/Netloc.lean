import PxManager.Core.Python

/-!
# PxManager.Core.Netloc

The parts of a network location, `user:password@host:port`, as `urllib.parse` reads them.

The `@` that counts is the last one; the colons that count are the first ones. A host in brackets
may have colons in it.
-/

namespace PxManager.Core

/-- `text.partition(separator)`: the text before the first separator and the text after it. -/
def partition (separator : Char) (text : Text) : Text × Text :=
  (text.takeWhile (· ≠ separator), (text.dropWhile (· ≠ separator)).drop 1)

/-- `text.rpartition(separator)`: the text before the last separator and the text after it. -/
def rpartition (separator : Char) (text : Text) : Text × Text :=
  let (after, before) := partition separator text.reverse
  (before.reverse, after.reverse)

/-- `host:port`, with brackets around a host that has colons in it. -/
def joinHostPort (host : Text) (port : ℤ) : Text :=
  if ':' ∈ host then '[' :: host ++ ']' :: ':' :: decimal port else host ++ ':' :: decimal port

/-- `_userinfo` of a network location: the user name and the password. -/
def userinfo (netloc : Text) : Option Text × Option Text :=
  let (userinfo, _) := rpartition '@' netloc
  if '@' ∈ netloc then
    let (username, password) := partition ':' userinfo
    (some username, if ':' ∈ userinfo then some password else none)
  else (none, none)

/-- `_hostinfo` of a network location: the host and the port. `hostname` is this host in lower
case. -/
def hostinfo (netloc : Text) : Text × Option Text :=
  let (_, hostinfo) := rpartition '@' netloc
  let (_, bracketed) := partition '[' hostinfo
  let (hostname, port) :=
    if '[' ∈ hostinfo then
      let (hostname, port) := partition ']' bracketed
      (hostname, (partition ':' port).2)
    else partition ':' hostinfo
  (hostname, if port = [] then none else some port)

section Partition

variable {separator : Char}

theorem partition_append {front : Text} (h : separator ∉ front) (back : Text) :
    partition separator (front ++ separator :: back) = (front, back) := by
  have hfront : ∀ c ∈ front, decide (c ≠ separator) = true := by
    intro c hc
    refine decide_eq_true ?_
    rintro rfl
    exact h hc
  rw [partition, List.takeWhile_append_of_pos hfront, List.dropWhile_append_of_pos hfront,
    List.takeWhile_cons_of_neg (by simp), List.dropWhile_cons_of_neg (by simp), List.append_nil,
    List.drop_succ_cons, List.drop_zero]

theorem partition_of_not_mem {text : Text} (h : separator ∉ text) :
    partition separator text = (text, []) := by
  have htext : ∀ c ∈ text, decide (c ≠ separator) = true := by
    intro c hc
    refine decide_eq_true ?_
    rintro rfl
    exact h hc
  rw [partition, List.takeWhile_eq_self_iff.mpr htext, List.dropWhile_eq_nil_iff.mpr htext,
    List.drop_nil]

theorem rpartition_append (front : Text) {back : Text} (h : separator ∉ back) :
    rpartition separator (front ++ separator :: back) = (front, back) := by
  have hback : separator ∉ back.reverse := by simpa using h
  have hreverse : (front ++ separator :: back).reverse =
      back.reverse ++ separator :: front.reverse := by simp
  rw [rpartition, hreverse, partition_append hback]
  simp

theorem rpartition_of_not_mem {text : Text} (h : separator ∉ text) :
    rpartition separator text = ([], text) := by
  have htext : separator ∉ text.reverse := by simpa using h
  rw [rpartition, partition_of_not_mem htext]
  simp

end Partition

section Netloc

variable {username password host port : Text}

theorem userinfo_append (husername : ':' ∉ username) (password : Text) {back : Text}
    (hback : '@' ∉ back) :
    userinfo (username ++ ':' :: password ++ '@' :: back) = (some username, some password) := by
  have hat : '@' ∈ username ++ ':' :: password ++ '@' :: back := by simp
  have hcolon : ':' ∈ username ++ ':' :: password := by simp
  rw [userinfo, rpartition_append _ hback]
  simp only [if_pos hat, partition_append husername, if_pos hcolon]

/-- What is before the host plays no part. -/
theorem hostinfo_append (front : Text) {back : Text} (h : '@' ∉ back) :
    hostinfo (front ++ '@' :: back) = hostinfo back := by
  rw [hostinfo, rpartition_append _ h, hostinfo, rpartition_of_not_mem h]

theorem hostinfo_plain (hhost : ':' ∉ host) (hplain : ∀ c ∈ ['@', '['], c ∉ host ++ ':' :: port)
    (hport : port ≠ []) : hostinfo (host ++ ':' :: port) = (host, some port) := by
  rw [hostinfo, rpartition_of_not_mem (hplain _ (by decide))]
  simp only [if_neg (hplain '[' (by decide)), partition_append hhost, if_neg hport]

/-- A host in brackets may have colons in it. -/
theorem hostinfo_bracketed (hat : '@' ∉ host ++ port) (hbracket : ']' ∉ host) (hport : port ≠ []) :
    hostinfo ('[' :: host ++ ']' :: ':' :: port) = (host, some port) := by
  rw [List.mem_append, not_or] at hat
  have hat' : '@' ∉ '[' :: host ++ ']' :: ':' :: port := by simp [hat]
  have hopen : '[' ∈ '[' :: host ++ ']' :: ':' :: port := by simp
  have hbracketed : partition '[' ('[' :: host ++ ']' :: ':' :: port) =
      ([], host ++ ']' :: ':' :: port) := partition_append List.not_mem_nil _
  have hcolon : partition ':' (':' :: port) = ([], port) := partition_append List.not_mem_nil _
  rw [hostinfo, rpartition_of_not_mem hat']
  simp only [if_pos hopen, hbracketed, partition_append hbracket, hcolon, if_neg hport]

/-- Without brackets, the host that is read ends at the first colon. -/
theorem colon_not_mem_hostinfo {netloc : Text} (h : '[' ∉ netloc) : ':' ∉ (hostinfo netloc).1 := by
  have hsubset : (rpartition '@' netloc).2 ⊆ netloc := by
    intro c hc
    have hmem : c ∈ netloc.reverse.takeWhile (· ≠ '@') := List.mem_reverse.mp hc
    exact List.mem_reverse.mp ((List.takeWhile_prefix _).subset hmem)
  have hopen : '[' ∉ (rpartition '@' netloc).2 := fun hmem => h (hsubset hmem)
  have hfirst : (hostinfo netloc).1 = (partition ':' (rpartition '@' netloc).2).1 := by
    simp only [hostinfo, if_neg hopen]
  rw [hfirst]
  intro hmem
  have hne := List.mem_takeWhile_imp hmem
  exact absurd hne (by simp)

end Netloc

end PxManager.Core
