namespace TapeMachine.Help

structure Question where
  id : String
  text : String
  answer : String
  deriving DecidableEq, Repr

structure Topic where
  id : String
  name : String
  questions : List Question
  deriving DecidableEq, Repr

def welcome : String :=
  "Hello! Select a topic below to get help with the simulator."

def gettingStarted : Topic where
  id := "getting-started"
  name := "Getting Started"
  questions :=
    [{ id := "what-is-turing"
       text := "What is a Turing Machine?"
       answer := "A Turing Machine is a mathematical model of computation: an abstract machine " ++
         "that reads and writes symbols on a strip of tape according to a table of rules. " ++
         "It helps us understand the fundamental limits of what can be computed." },
     { id := "how-to-use-simulator"
       text := "How do I use the simulator?"
       answer := "Load a program file (or keep the built-in binary increment example), choose " ++
         "'Parse & Initialize', then step through it one transition at a time or run it " ++
         "continuously. The speed setting controls the delay between steps." },
     { id := "binary-increment"
       text := "What is binary increment?"
       answer := "Binary increment adds 1 to a binary number. The default program scans to the " ++
         "rightmost digit, then carries the 1 leftwards until it finds a 0 or a blank." }]

def commonIssues : Topic where
  id := "common-issues"
  name := "Common Issues"
  questions :=
    [{ id := "simulator-not-working"
       text := "The simulator isn't working correctly"
       answer := "Check the warnings printed after parsing: lines the parser could not read are " ++
         "skipped. Every rule needs an L, R or N clause, and every state the machine " ++
         "reaches needs a rule for each symbol it can read." },
     { id := "slow-performance"
       text := "The simulator is running slowly"
       answer := "Raise the speed setting (1-100) in the configuration, or use the automation " ++
         "mode with --run to execute without animation." },
     { id := "save-machine"
       text := "How do I save my Turing Machine?"
       answer := "Programs are plain text files. Keep them under programs/ and load them by " ++
         "path." }]

def programSyntax : Topic where
  id := "syntax"
  name := "Program Syntax"
  questions :=
    [{ id := "rule-format"
       text := "How are rules written?"
       answer := "Inside a state block, write '<symbol>: \x7bwrite: <symbol>, " ++
         "<L|R|N>: <next state>\x7d'. " ++
         "The write clause is optional; a list like '[0, 1]' shares one rule." },
     { id := "halting"
       text := "When does the machine stop?"
       answer := "A rule with the N move halts the machine, and so does entering the state " ++
         "named 'done'. A missing rule stops the run with an error naming the state and symbol." }]

def topics : List Topic :=
  [gettingStarted, commonIssues, programSyntax]

def topic? (id : String) : Option Topic :=
  topics.find? fun topic => topic.id = id

def question? (topic question : String) : Option Question := do
  (← topic? topic).questions.find? fun q => q.id = question

def answer? (topic question : String) : Option String :=
  (question? topic question).map Question.answer

end TapeMachine.Help
