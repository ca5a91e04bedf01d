import TokenPattern.Unicode.CaseMapping

/-!
# Characters that differ only in case

Simple case folding divides the characters into small classes.  `caseVariants` lists the class of
a character, which is what a comparison without regard to case needs.
-/

namespace TokenPattern.Unicode

/-- Moves every character to the first member of its class. -/
def foldShifts : ShiftTable := ShiftTable.ofText
    "61-7a/1-20 e0-f6/1-20 f8-fe/1-20 101-12f/2-1 133-137/2-1 13a-148/2-1 14b-177/2-1 178-178/1-79
    17a-17e/2-1 17f-17f/1-12c 183-185/2-1 188-188/1-1 18c-18c/1-1 192-192/1-1 199-199/1-1
    1a1-1a5/2-1 1a8-1a8/1-1 1ad-1ad/1-1 1b0-1b0/1-1 1b4-1b6/2-1 1b9-1b9/1-1 1bd-1bd/1-1 1c5-1c5/1-1
    1c6-1c6/1-2 1c8-1c8/1-1 1c9-1c9/1-2 1cb-1cb/1-1 1cc-1cc/1-2 1ce-1dc/2-1 1dd-1dd/1-4f
    1df-1ef/2-1 1f2-1f2/1-1 1f3-1f3/1-2 1f5-1f5/1-1 1f6-1f6/1-61 1f7-1f7/1-38 1f9-21f/2-1
    220-220/1-82 223-233/2-1 23c-23c/1-1 23d-23d/1-a3 242-242/1-1 243-243/1-c3 247-24f/2-1
    253-253/1-d2 254-254/1-ce 256-257/1-cd 259-259/1-ca 25b-25b/1-cb 260-260/1-cd 263-263/1-cf
    268-268/1-d1 269-269/1-d3 26f-26f/1-d3 272-272/1-d5 275-275/1-d6 280-280/1-da 283-283/1-da
    288-288/1-da 289-289/1-45 28a-28b/1-d9 28c-28c/1-47 292-292/1-db 371-373/2-1 377-377/1-1
    399-399/1-54 39c-39c/1-2e7 3ac-3ac/1-26 3ad-3af/1-25 3b1-3b8/1-20 3b9-3b9/1-74 3ba-3bb/1-20
    3bc-3bc/1-307 3bd-3c1/1-20 3c2-3c2/1-1f 3c3-3cb/1-20 3cc-3cc/1-40 3cd-3ce/1-3f 3d0-3d0/1-3e
    3d1-3d1/1-39 3d5-3d5/1-2f 3d6-3d6/1-36 3d7-3d7/1-8 3d9-3ef/2-1 3f0-3f0/1-56 3f1-3f1/1-50
    3f3-3f3/1-74 3f4-3f4/1-5c 3f5-3f5/1-60 3f8-3f8/1-1 3f9-3f9/1-7 3fb-3fb/1-1 3fd-3ff/1-82
    430-44f/1-20 450-45f/1-50 461-481/2-1 48b-4bf/2-1 4c2-4ce/2-1 4cf-4cf/1-f 4d1-52f/2-1
    561-586/1-30 13f8-13fd/1-8 1c80-1c80/1-186e 1c81-1c81/1-186d 1c82-1c82/1-1864 1c83-1c84/1-1862
    1c85-1c85/1-1863 1c86-1c86/1-185c 1c87-1c87/1-1825 1c8a-1c8a/1-1 1c90-1cba/1-bc0
    1cbd-1cbf/1-bc0 1e01-1e95/2-1 1e9b-1e9b/1-3b 1e9e-1e9e/1-1dbf 1ea1-1eff/2-1 1f08-1f0f/1-8
    1f18-1f1d/1-8 1f28-1f2f/1-8 1f38-1f3f/1-8 1f48-1f4d/1-8 1f59-1f5f/2-8 1f68-1f6f/1-8
    1f88-1f8f/1-8 1f98-1f9f/1-8 1fa8-1faf/1-8 1fb8-1fb9/1-8 1fba-1fbb/1-4a 1fbc-1fbc/1-9
    1fbe-1fbe/1-1c79 1fc8-1fcb/1-56 1fcc-1fcc/1-9 1fd3-1fd3/1-1c43 1fd8-1fd9/1-8 1fda-1fdb/1-64
    1fe3-1fe3/1-1c33 1fe8-1fe9/1-8 1fea-1feb/1-70 1fec-1fec/1-7 1ff8-1ff9/1-80 1ffa-1ffb/1-7e
    1ffc-1ffc/1-9 2126-2126/1-1d7d 212a-212a/1-20df 212b-212b/1-2066 214e-214e/1-1c 2170-217f/1-10
    2184-2184/1-1 24d0-24e9/1-1a 2c30-2c5f/1-30 2c61-2c61/1-1 2c62-2c62/1-29f7 2c63-2c63/1-ee6
    2c64-2c64/1-29e7 2c65-2c65/1-2a2b 2c66-2c66/1-2a28 2c68-2c6c/2-1 2c6d-2c6d/1-2a1c
    2c6e-2c6e/1-29fd 2c6f-2c6f/1-2a1f 2c70-2c70/1-2a1e 2c73-2c73/1-1 2c76-2c76/1-1 2c7e-2c7f/1-2a3f
    2c81-2ce3/2-1 2cec-2cee/2-1 2cf3-2cf3/1-1 2d00-2d25/1-1c60 2d27-2d27/1-1c60 2d2d-2d2d/1-1c60
    a641-a649/2-1 a64a-a64a/1-89c2 a64b-a64b/1-89c3 a64d-a66d/2-1 a681-a69b/2-1 a723-a72f/2-1
    a733-a76f/2-1 a77a-a77c/2-1 a77d-a77d/1-8a04 a77f-a787/2-1 a78c-a78c/1-1 a78d-a78d/1-a528
    a791-a793/2-1 a797-a7a9/2-1 a7aa-a7aa/1-a544 a7ab-a7ab/1-a54f a7ac-a7ac/1-a54b a7ad-a7ad/1-a541
    a7ae-a7ae/1-a544 a7b0-a7b0/1-a512 a7b1-a7b1/1-a52a a7b2-a7b2/1-a515 a7b5-a7c3/2-1
    a7c4-a7c4/1-30 a7c5-a7c5/1-a543 a7c6-a7c6/1-8a38 a7c8-a7ca/2-1 a7cb-a7cb/1-a567 a7cd-a7cd/1-1
    a7d1-a7d1/1-1 a7d7-a7db/2-1 a7dc-a7dc/1-a641 a7f6-a7f6/1-1 ab53-ab53/1-3a0 ab70-abbf/1-97d0
    fb06-fb06/1-1 ff41-ff5a/1-20 10428-1044f/1-28 104d8-104fb/1-28 10597-105a1/1-27
    105a3-105b1/1-27 105b3-105b9/1-27 105bb-105bc/1-27 10cc0-10cf2/1-40 10d70-10d85/1-20
    118c0-118df/1-20 16e60-16e7f/1-20 1e922-1e943/1-22"

/-- The first member of a character's class. -/
def foldTo (x : Nat) : Nat := (foldShifts.image? x).getD x

/-- All characters that differ from `c` at most in case, `c` itself among them. -/
def caseVariants (c : Char) : List Char :=
  let first := foldTo c.toNat
  (first :: foldShifts.preimages first).map Char.ofNat

end TokenPattern.Unicode
