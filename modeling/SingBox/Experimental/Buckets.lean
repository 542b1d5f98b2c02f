import SingBox.Common.Binary

/-! Opening a cache file (`CacheFile.start` in `experimental/cachefile/cache.go`): buckets that older versions
left are deleted. -/
namespace SingBox.CacheFile
open List

/-- The database has no bucket with an empty name. -/
abbrev BucketName := { name : Bytes // name ≠ [] }

/-- A bucket at the top level: its pairs, and the buckets inside it with all they hold. -/
structure Bucket (P V : Type) where
  pairs : P
  buckets : List (BucketName × V)
  deriving DecidableEq

variable {P V : Type}

def bucketNameList : List Bytes := ["selected","group_expand","clash_mode","rule_set","rdrc2","dns_cache"].map ascii

def fakeipBucketPrefix : Bytes := ascii "fakeip_"

def deleteBucket (buckets : List (BucketName × V)) (name : BucketName) : List (BucketName × V) :=
  buckets.filter fun bucket => bucket.1 ≠ name

def isCacheID (name : BucketName) : Bool := name.1.head name.2 == 0

def isListed (name : BucketName) : Bool := bucketNameList.contains name.1

def isKept (name : BucketName) : Bool := isListed name || fakeipBucketPrefix.isPrefixOf name.1

/-- The visit of a bucket inside that of a cache ID: what is deleted has the name of the outer one. -/
def visitInner (name : BucketName) (buckets : List (BucketName × V)) (k : BucketName × V) : List (BucketName × V) :=
  if isListed k.1 then buckets else deleteBucket buckets name

/-- A visit at the top level, which changes no other bucket. -/
def visit (name : BucketName) (b : Bucket P V) : Option (BucketName × Bucket P V) :=
  if isCacheID name then some (name,{ b with buckets := b.buckets.foldl (visitInner name) b.buckets })
  else if isKept name then some (name,b)
  else none

/-- The transaction of `start`. -/
def start (tx : List (BucketName × Bucket P V)) : List (BucketName × Bucket P V) :=
  tx.filterMap fun bucket => visit bucket.1 bucket.2

def Bucket.tidied (b : Bucket P V) : Bucket P V := { b with buckets := b.buckets.filter fun inner => isListed inner.1 }

/-- The layout without the buckets that have unknown names, at both levels. -/
def tidied (tx : List (BucketName × Bucket P V)) : List (BucketName × Bucket P V) :=
  (tx.filter fun bucket => isCacheID bucket.1 || isKept bucket.1).map fun bucket =>
    (bucket.1,if isCacheID bucket.1 then bucket.2.tidied else bucket.2)

lemma isListed_of_isCacheID {n : BucketName} (h : isCacheID n = true) : isListed n = false := by
  obtain ⟨n,hn⟩ := n
  cases n with
  | nil => exact absurd rfl hn
  | cons f =>
    obtain rfl : f = 0 := by simpa [isCacheID] using h
    simp [isListed,bucketNameList,ascii]

lemma foldl_visitInner (n : BucketName) (ks bs : List (BucketName × V)) : ks.foldl (visitInner n) bs =
      if ks.all fun k => isListed k.1 then bs else deleteBucket bs n := by
  induction ks generalizing bs with
  | nil => rfl
  | cons k ks ih =>
    rw [foldl_cons,ih,all_cons,visitInner]
    cases isListed k.1 with
    | true => rfl
    | false => simp [deleteBucket]

lemma visit_eq_tidied_iff {n : BucketName} (h : isCacheID n = true) (b : Bucket P V) :
    visit n b = some (n,b.tidied) ↔ ∀ i ∈ b.buckets, isListed i.1 = false → i.1 = n := by
  simp only [visit,h,if_true,Option.some.injEq,Prod.mk.injEq,true_and,Bucket.tidied,Bucket.mk.injEq,foldl_visitInner]
  split_ifs with ha
  · rw [all_eq_true] at ha
    simp +contextual [eq_comm (a := b.buckets),ha]
  · constructor
    · intro hs i hin hu
      by_contra hn
      have hm : i ∈ deleteBucket b.buckets n := mem_filter.mpr ⟨hin,decide_eq_true hn⟩
      simp [hs,hu] at hm
    · intro ho
      refine filter_congr fun i hin => ?_
      cases hl : isListed i.1 with
      | true =>
        have hn : i.1 ≠ n := by
          rintro rfl
          simp [isListed_of_isCacheID h] at hl
        simp [hn]
      | false => simp [ho i hin hl]

/-- Opening a file removes exactly the buckets with unknown names if and only if no bucket of a cache ID has one
inside, unless that has the name of the cache ID. -/
theorem start_eq_tidied_iff (tx : List (BucketName × Bucket P V)) :
    start tx = tidied tx ↔ ∀ bucket ∈ tx, isCacheID bucket.1 = true →
      ∀ inner ∈ bucket.2.buckets, isListed inner.1 = false → inner.1 = bucket.1 := by
  induction tx with
  | nil => simp [start,tidied]
  | cons bucket tx ih =>
    rw [forall_mem_cons,← ih,start,tidied,filterMap_cons,filter_cons]
    by_cases hid : isCacheID bucket.1 = true
    · rw [← visit_eq_tidied_iff hid]
      simp [visit,hid,start,tidied]
    · have hv : visit bucket.1 bucket.2 = if isKept bucket.1 then some bucket else none :=
        if_neg hid
      rw [hv]
      cases isKept bucket.1 <;> simp [hid,start,tidied]

/-- What an older version left under a cache ID stays. -/
theorem start_keeps_old_bucket :
    let tx : List (BucketName × Bucket Unit Unit) := [(⟨[0,97],by decide⟩,⟨(),[(⟨ascii "rdrc",by decide⟩,())]⟩)]
    start tx = tx ∧ tidied tx ≠ tx := by
  decide +kernel

end SingBox.CacheFile
