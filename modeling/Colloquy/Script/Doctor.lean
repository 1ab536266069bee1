import Colloquy.Script.Reader

/-!
# The DOCTOR script

The script of a psychotherapist who turns every sentence back on the speaker. It is the script
that a conversation follows where no other is given.
-/

namespace Colloquy.Script

/-- The text of the DOCTOR script. -/
def doctorText : String :=
  r#"; DOCTOR
;
; The script published with J. Weizenbaum, "ELIZA - A Computer Program
; For the Study of Natural Language Communication Between Man and
; Machine", Communications of the ACM 9(1), January 1966.

(HOW DO YOU DO.  PLEASE TELL ME YOUR PROBLEM)
START

(SORRY
    ((0) (PLEASE DON'T APOLOGIZE) (APOLOGIES ARE NOT NECESSARY)
         (WHAT FEELINGS DO YOU HAVE WHEN YOU APOLOGIZE)
         (I'VE TOLD YOU THAT APOLOGIES ARE NOT REQUIRED)))
(DONT = DON'T)
(CANT = CAN'T)
(WONT = WON'T)
(REMEMBER 5
    ((0 YOU REMEMBER 0) (DO YOU OFTEN THINK OF 4)
         (DOES THINKING OF 4 BRING ANYTHING ELSE TO MIND)
         (WHAT ELSE DO YOU REMEMBER) (WHY DO YOU REMEMBER 4 JUST NOW)
         (WHAT IN THE PRESENT SITUATION REMINDS YOU OF 4)
         (WHAT IS THE CONNECTION BETWEEN ME AND 4))
    ((0 DO I REMEMBER 0) (DID YOU THINK I WOULD FORGET 5)
         (WHY DO YOU THINK I SHOULD RECALL 5 NOW) (WHAT ABOUT 5) (=WHAT)
         (YOU MENTIONED 5))
    ((0) (NEWKEY)))
(IF 3
    ((0 IF 0) (DO YOU THINK ITS LIKELY THAT 3) (DO YOU WISH THAT 3)
         (WHAT DO YOU THINK ABOUT 3) (REALLY, 2 3)))
(DREAMT 4
    ((0 YOU DREAMT 0) (REALLY, 4) (HAVE YOU EVER FANTASIED 4 WHILE YOU WERE AWAKE)
         (HAVE YOU DREAMT 4 BEFORE) (=DREAM) (NEWKEY)))
(DREAMED = DREAMT 4 (=DREAMT))
(DREAM 3
    ((0) (WHAT DOES THAT DREAM SUGGEST TO YOU) (DO YOU DREAM OFTEN)
         (WHAT PERSONS APPEAR IN YOUR DREAMS)
         (DON'T YOU BELIEVE THAT DREAM HAS SOMETHING TO DO WITH YOUR PROBLEM)
         (NEWKEY)))
(DREAMS = DREAM 3 (=DREAM))
(HOW (=WHAT))
(WHEN (=WHAT))
(ALIKE 10 (=DIT))
(SAME 10 (=DIT))
(CERTAINLY (=YES))
(FEEL DLIST(/BELIEF))
(THINK DLIST(/BELIEF))
(BELIEVE DLIST(/BELIEF))
(WISH DLIST(/BELIEF))
(MEMORY MY
    (0 YOUR 0 = LETS DISCUSS FURTHER WHY YOUR 3)
    (0 YOUR 0 = EARLIER YOU SAID YOUR 3)
    (0 YOUR 0 = BUT YOUR 3)
    (0 YOUR 0 = DOES THAT HAVE ANYTHING TO DO WITH THE FACT THAT YOUR 3))
(NONE
    ((0) (I AM NOT SURE I UNDERSTAND YOU FULLY) (PLEASE GO ON)
         (WHAT DOES THAT SUGGEST TO YOU)
         (DO YOU FEEL STRONGLY ABOUT DISCUSSING SUCH THINGS)))
(PERHAPS
    ((0) (YOU DON'T SEEM QUITE CERTAIN) (WHY THE UNCERTAIN TONE)
         (CAN'T YOU BE MORE POSITIVE) (YOU AREN'T SURE) (DON'T YOU KNOW)))
(MAYBE (=PERHAPS))
(NAME 15
    ((0) (I AM NOT INTERESTED IN NAMES)
         (I'VE TOLD YOU BEFORE, I DON'T CARE ABOUT NAMES - PLEASE CONTINUE)))
(DEUTSCH (=XFREMD))
(FRANCAIS (=XFREMD))
(ITALIANO (=XFREMD))
(ESPANOL (=XFREMD))
(XFREMD
    ((0) (I AM SORRY, I SPEAK ONLY ENGLISH)))
(HELLO
    ((0) (HOW DO YOU DO.  PLEASE STATE YOUR PROBLEM)))
(COMPUTER 50
    ((0) (DO COMPUTERS WORRY YOU) (WHY DO YOU MENTION COMPUTERS)
         (WHAT DO YOU THINK MACHINES HAVE TO DO WITH YOUR PROBLEM)
         (DON'T YOU THINK COMPUTERS CAN HELP PEOPLE)
         (WHAT ABOUT MACHINES WORRIES YOU) (WHAT DO YOU THINK ABOUT MACHINES)))
(MACHINE 50 (=COMPUTER))
(MACHINES 50 (=COMPUTER))
(COMPUTERS 50 (=COMPUTER))
(AM = ARE
    ((0 ARE YOU 0) (DO YOU BELIEVE YOU ARE 4) (WOULD YOU WANT TO BE 4)
         (YOU WISH I WOULD TELL YOU YOU ARE 4)
         (WHAT WOULD IT MEAN IF YOU WERE 4) (=WHAT))
    ((0) (WHY DO YOU SAY 'AM') (I DON'T UNDERSTAND THAT)))
(ARE
    ((0 ARE I 0) (WHY ARE YOU INTERESTED IN WHETHER I AM 4 OR NOT)
         (WOULD YOU PREFER IF I WEREN'T 4) (PERHAPS I AM 4 IN YOUR FANTASIES)
         (DO YOU SOMETIMES THINK I AM 4) (=WHAT))
    ((0 ARE 0) (DID YOU THINK THEY MIGHT NOT BE 3)
         (WOULD YOU LIKE IT IF THEY WERE NOT 3) (WHAT IF THEY WERE NOT 3)
         (POSSIBLY THEY ARE 3)))
(YOUR = MY
    ((0 MY 0) (WHY ARE YOU CONCERNED OVER MY 3) (WHAT ABOUT YOUR OWN 3)
         (ARE YOU WORRIED ABOUT SOMEONE ELSES 3) (REALLY, MY 3)))
(WAS 2
    ((0 WAS YOU 0) (WHAT IF YOU WERE 4) (DO YOU THINK YOU WERE 4)
         (WERE YOU 4) (WHAT WOULD IT MEAN IF YOU WERE 4)
         (WHAT DOES " 4 " SUGGEST TO YOU) (=WHAT))
    ((0 YOU WAS 0) (WERE YOU REALLY) (WHY DO YOU TELL ME YOU WERE 4 NOW)
         (PERHAPS I ALREADY KNEW YOU WERE 4))
    ((0 WAS I 0) (WOULD YOU LIKE TO BELIEVE I WAS 4) (WHAT SUGGESTS THAT I WAS 4)
         (WHAT DO YOU THINK) (PERHAPS I WAS 4) (WHAT IF I HAD BEEN 4))
    ((0) (NEWKEY)))
(WERE = WAS (=WAS))
(ME = YOU)
(YOU'RE = I'M
    ((0 I'M 0) (PRE (I ARE 3) (=YOU))))
(I'M = YOU'RE
    ((0 YOU'RE 0) (PRE (YOU ARE 3) (=I))))
(MYSELF = YOURSELF)
(YOURSELF = MYSELF)
(MOTHER DLIST(/NOUN FAMILY))
(MOM = MOTHER DLIST(/ FAMILY))
(DAD = FATHER DLIST(/ FAMILY))
(FATHER DLIST(/NOUN FAMILY))
(SISTER DLIST(/FAMILY))
(BROTHER DLIST(/FAMILY))
(WIFE DLIST(/FAMILY))
(CHILDREN DLIST(/FAMILY))
(I = YOU
    ((0 YOU (* WANT NEED) 0) (WHAT WOULD IT MEAN TO YOU IF YOU GOT 4)
         (WHY DO YOU WANT 4) (SUPPOSE YOU GOT 4 SOON) (WHAT IF YOU NEVER GOT 4)
         (WHAT WOULD GETTING 4 MEAN TO YOU)
         (WHAT DOES WANTING 4 HAVE TO DO WITH THIS DISCUSSION))
    ((0 YOU ARE 0 (*SAD UNHAPPY DEPRESSED SICK) 0) (I AM SORRY TO HEAR YOU ARE 5)
         (DO YOU THINK COMING HERE WILL HELP YOU NOT TO BE 5)
         (I'M SURE ITS NOT PLEASANT TO BE 5) (CAN YOU EXPLAIN WHAT MADE YOU 5))
    ((0 YOU ARE 0 (*HAPPY ELATED GLAD BETTER) 0) (HOW HAVE I HELPED YOU TO BE 5)
         (HAS YOUR TREATMENT MADE YOU 5) (WHAT MAKES YOU 5 JUST NOW)
         (CAN YOU EXPLAIN WHY YOU ARE SUDDENLY 5))
    ((0 YOU WAS 0) (=WAS))
    ((0 YOU (/BELIEF) YOU 0) (DO YOU REALLY THINK SO) (BUT YOU ARE NOT SURE YOU 5)
         (DO YOU REALLY DOUBT YOU 5))
    ((0 YOU 0 (/BELIEF) 0 I 0) (=YOU))
    ((0 YOU ARE 0) (IS IT BECAUSE YOU ARE 4 THAT YOU CAME TO ME)
         (HOW LONG HAVE YOU BEEN 4) (DO YOU BELIEVE IT NORMAL TO BE 4)
         (DO YOU ENJOY BEING 4))
    ((0 YOU (* CAN'T CANNOT) 0) (HOW DO YOU KNOW YOU CAN'T 4) (HAVE YOU TRIED)
         (PERHAPS YOU COULD 4 NOW) (DO YOU REALLY WANT TO BE ABLE TO 4))
    ((0 YOU DON'T 0) (DON'T YOU REALLY 4) (WHY DON'T YOU 4)
         (DO YOU WISH TO BE ABLE TO 4) (DOES THAT TROUBLE YOU))
    ((0 YOU FEEL 0) (TELL ME MORE ABOUT SUCH FEELINGS) (DO YOU OFTEN FEEL 4)
         (DO YOU ENJOY FEELING 4) (OF WHAT DOES FEELING 4 REMIND YOU))
    ((0 YOU 0 I 0) (PERHAPS IN YOUR FANTASY WE 3 EACH OTHER)
         (DO YOU WISH TO 3 ME) (YOU SEEM TO NEED TO 3 ME) (DO YOU 3 ANYONE ELSE))
    ((0) (YOU SAY 1) (CAN YOU ELABORATE ON THAT)
         (DO YOU SAY 1 FOR SOME SPECIAL REASON) (THAT'S QUITE INTERESTING)))
(YOU = I
    ((0 I REMIND YOU OF 0) (=DIT))
    ((0 I ARE 0) (WHAT MAKES YOU THINK I AM 4)
         (DOES IT PLEASE YOU TO BELIEVE I AM 4)
         (DO YOU SOMETIMES WISH YOU WERE 4) (PERHAPS YOU WOULD LIKE TO BE 4))
    ((0 I 0 YOU) (WHY DO YOU THINK I 3 YOU) (YOU LIKE TO THINK I 3 YOU - DON'T YOU)
         (WHAT MAKES YOU THINK I 3 YOU) (REALLY, I 3 YOU)
         (DO YOU WISH TO BELIEVE I 3 YOU) (SUPPOSE I DID 3 YOU - WHAT WOULD THAT MEAN)
         (DOES SOMEONE ELSE BELIEVE I 3 YOU))
    ((0 I 0) (WE WERE DISCUSSING YOU - NOT ME) (OH, I 3)
         (YOU'RE NOT REALLY TALKING ABOUT ME - ARE YOU)
         (WHAT ARE YOUR FEELINGS NOW)))
(YES
    ((0) (YOU SEEM QUITE POSITIVE) (YOU ARE SURE) (I SEE) (I UNDERSTAND)))
(NO
    ((0) (ARE YOU SAYING 'NO' JUST TO BE NEGATIVE) (YOU ARE BEING A BIT NEGATIVE)
         (WHY NOT) (WHY 'NO')))
(MY = YOUR 2
    ((0 YOUR 0 (/FAMILY) 0) (TELL ME MORE ABOUT YOUR FAMILY)
         (WHO ELSE IN YOUR FAMILY 5) (YOUR 4)
         (WHAT ELSE COMES TO MIND WHEN YOU THINK OF YOUR 4))
    ((0 YOUR 0) (YOUR 3) (WHY DO YOU SAY YOUR 3)
         (DOES THAT SUGGEST ANYTHING ELSE WHICH BELONGS TO YOU)
         (IS IT IMPORTANT TO YOU THAT 2 3)))
(CAN
    ((0 CAN I 0) (YOU BELIEVE I CAN 4 DON'T YOU) (=WHAT)
         (YOU WANT ME TO BE ABLE TO 4) (PERHAPS YOU WOULD LIKE TO BE ABLE TO 4 YOURSELF))
    ((0 CAN YOU 0) (WHETHER OR NOT YOU CAN 4 DEPENDS ON YOU MORE THAN ON ME)
         (DO YOU WANT TO BE ABLE TO 4) (PERHAPS YOU DON'T WANT TO 4) (=WHAT)))
(WHAT
    ((0) (WHY DO YOU ASK) (DOES THAT QUESTION INTEREST YOU)
         (WHAT IS IT YOU REALLY WANT TO KNOW) (ARE SUCH QUESTIONS MUCH ON YOUR MIND)
         (WHAT ANSWER WOULD PLEASE YOU MOST) (WHAT DO YOU THINK)
         (WHAT COMES TO YOUR MIND WHEN YOU ASK THAT)
         (HAVE YOU ASKED SUCH QUESTION BEFORE) (HAVE YOU ASKED ANYONE ELSE)))
(BECAUSE
    ((0) (IS THAT THE REAL REASON) (DON'T ANY OTHER REASONS COME TO MIND)
         (DOES THAT REASON SEEM TO EXPLAIN ANYTHING ELSE)
         (WHAT OTHER REASONS MIGHT THERE BE)))
(WHY
    ((0 WHY DON'T I 0) (DO YOU BELIEVE I DON'T 5) (PERHAPS I WILL 5 IN GOOD TIME)
         (SHOULD YOU 5 YOURSELF) (YOU WANT ME TO 5) (=WHAT))
    ((0 WHY CAN'T YOU 0) (DO YOU THINK YOU SHOULD BE ABLE TO 5)
         (DO YOU WANT TO BE ABLE TO 5) (DO YOU BELIEVE THIS WILL HELP YOU TO 5)
         (HAVE YOU ANY IDEA WHY YOU CAN'T 5) (=WHAT))
    (=WHAT))
(EVERYONE 2
    ((0 (* EVERYONE EVERYBODY NOBODY NOONE) 0) (REALLY, 2) (SURELY NOT 2)
         (CAN YOU THINK OF ANYONE IN PARTICULAR) (WHO, FOR EXAMPLE)
         (YOU ARE THINKING OF A VERY SPECIAL PERSON) (WHO, MAY I ASK)
         (SOMEONE SPECIAL PERHAPS) (YOU HAVE A PARTICULAR PERSON IN MIND, DON'T YOU)
         (WHO DO YOU THINK YOU'RE TALKING ABOUT)))
(EVERYBODY 2 (= EVERYONE))
(NOBODY 2 (= EVERYONE))
(NOONE 2 (= EVERYONE))
(ALWAYS 1
    ((0) (CAN YOU THINK OF A SPECIFIC EXAMPLE) (WHEN)
         (WHAT INCIDENT ARE YOU THINKING OF) (REALLY, ALWAYS)))
(LIKE 10
    ((0 (*AM IS ARE WAS) 0 LIKE 0) (=DIT))
    ((0) (NEWKEY)))
(DIT
    ((0) (IN WHAT WAY) (WHAT RESEMBLANCE DO YOU SEE)
         (WHAT DOES THAT SIMILARITY SUGGEST TO YOU)
         (WHAT OTHER CONNECTIONS DO YOU SEE)
         (WHAT DO YOU SUPPOSE THAT RESEMBLANCE IS) (WHAT IS THE CONNECTION)
         (COULD THERE REALLY BE SOME CONNECTION) (HOW)))
()
"#

/-- The DOCTOR script. -/
def doctor : Except ScriptError Script := read doctorText

end Colloquy.Script
