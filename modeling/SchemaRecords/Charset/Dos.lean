import SchemaRecords.Charset.Basic

/-!
# Sets of terminals

* `dos` -- the numbered sets of single octets of terminals, with lines for boxes.
-/

namespace SchemaRecords.Charset

/-- The sets, each with its names and the runs of its characters. -/
def dos : List Charset :=
  [ single "cp1125" "1125 cp866u ibm1125 ruscii"
      "0-7F 410-43F 2591-2593 2502 2524 2561-2562 2556 2555 2563 2551 2557 255D 255C 255B 2510 2514
       2534 252C 251C 2500 253C 255E-255F 255A 2554 2569 2566 2560 2550 256C 2567-2568 2564-2565
       2559 2558 2552-2553 256B 256A 2518 250C 2588 2584 258C 2590 2580 440-44F 401 451 490-491 404
       454 406 456 407 457 B7 221A 2116 A4 25A0 A0",
    single "cp437" "437 cspc8codepage437 ibm437"
      "0-7F C7 FC E9 E2 E4 E0 E5 E7 EA-EB E8 EF EE EC C4-C5 C9 E6 C6 F4 F6 F2 FB F9 FF D6 DC A2-A3
       A5 20A7 192 E1 ED F3 FA F1 D1 AA BA BF 2310 AC BD BC A1 AB BB 2591-2593 2502 2524 2561-2562
       2556 2555 2563 2551 2557 255D 255C 255B 2510 2514 2534 252C 251C 2500 253C 255E-255F 255A
       2554 2569 2566 2560 2550 256C 2567-2568 2564-2565 2559 2558 2552-2553 256B 256A 2518 250C
       2588 2584 258C 2590 2580 3B1 DF 393 3C0 3A3 3C3 B5 3C4 3A6 398 3A9 3B4 221E 3C6 3B5 2229
       2261 B1 2265 2264 2320-2321 F7 2248 B0 2219 B7 221A 207F B2 25A0 A0",
    single "cp720" ""
      "0-81 E9 E2 84 E0 86 E7 EA-EB E8 EF EE 8D-90 651-652 F4 A4 640 FB F9 621-624 A3 625-635 AB BB
       2591-2593 2502 2524 2561-2562 2556 2555 2563 2551 2557 255D 255C 255B 2510 2514 2534 252C
       251C 2500 253C 255E-255F 255A 2554 2569 2566 2560 2550 256C 2567-2568 2564-2565 2559 2558
       2552-2553 256B 256A 2518 250C 2588 2584 258C 2590 2580 636-63A 641 B5 642-64A 2261 64B-650
       2248 B0 2219 B7 221A 207F B2 25A0 A0",
    single "cp737" ""
      "0-7F 391-3A1 3A3-3A9 3B1-3C1 3C3 3C2 3C4-3C8 2591-2593 2502 2524 2561-2562 2556 2555 2563
       2551 2557 255D 255C 255B 2510 2514 2534 252C 251C 2500 253C 255E-255F 255A 2554 2569 2566
       2560 2550 256C 2567-2568 2564-2565 2559 2558 2552-2553 256B 256A 2518 250C 2588 2584 258C
       2590 2580 3C9 3AC-3AE 3CA 3AF 3CC-3CD 3CB 3CE 386 388-38A 38C 38E-38F B1 2265 2264 3AA-3AB
       F7 2248 B0 2219 B7 221A 207F B2 25A0 A0",
    single "cp775" "775 cspc775baltic ibm775"
      "0-7F 106 FC E9 101 E4 123 E5 107 142 113 156-157 12B 179 C4-C5 C9 E6 C6 14D F6 122 A2
       15A-15B D6 DC F8 A3 D8 D7 A4 100 12A F3 17B-17C 17A 201D A6 A9 AE AC BD BC 141 AB BB
       2591-2593 2502 2524 104 10C 118 116 2563 2551 2557 255D 12E 160 2510 2514 2534 252C 251C
       2500 253C 172 16A 255A 2554 2569 2566 2560 2550 256C 17D 105 10D 119 117 12F 161 173 16B 17E
       2518 250C 2588 2584 258C 2590 2580 D3 DF 14C 143 F5 D5 B5 144 136-137 13B-13C 146 112 145
       2019 AD B1 201C BE B6 A7 F7 201E B0 2219 B7 B9 B3 B2 25A0 A0",
    single "cp850" "850 cspc850multilingual ibm850"
      "0-7F C7 FC E9 E2 E4 E0 E5 E7 EA-EB E8 EF EE EC C4-C5 C9 E6 C6 F4 F6 F2 FB F9 FF D6 DC F8 A3
       D8 D7 192 E1 ED F3 FA F1 D1 AA BA BF AE AC BD BC A1 AB BB 2591-2593 2502 2524 C1-C2 C0 A9
       2563 2551 2557 255D A2 A5 2510 2514 2534 252C 251C 2500 253C E3 C3 255A 2554 2569 2566 2560
       2550 256C A4 F0 D0 CA-CB C8 131 CD-CF 2518 250C 2588 2584 A6 CC 2580 D3 DF D4 D2 F5 D5 B5 FE
       DE DA-DB D9 FD DD AF B4 AD B1 2017 BE B6 A7 F7 B8 B0 A8 B7 B9 B3 B2 25A0 A0",
    single "cp852" "852 cspcp852 ibm852"
      "0-7F C7 FC E9 E2 E4 16F 107 E7 142 EB 150-151 EE 179 C4 106 C9 139-13A F4 F6 13D-13E 15A-15B
       D6 DC 164-165 141 D7 10D E1 ED F3 FA 104-105 17D-17E 118-119 AC 17A 10C 15F AB BB 2591-2593
       2502 2524 C1-C2 11A 15E 2563 2551 2557 255D 17B-17C 2510 2514 2534 252C 251C 2500 253C
       102-103 255A 2554 2569 2566 2560 2550 256C A4 111 110 10E CB 10F 147 CD-CE 11B 2518 250C
       2588 2584 162 16E 2580 D3 DF D4 143-144 148 160-161 154 DA 155 170 FD DD 163 B4 AD 2DD 2DB
       2C7 2D8 A7 F7 B8 B0 A8 2D9 171 158-159 25A0 A0",
    single "cp855" "855 csibm855 ibm855"
      "0-7F 452 402 453 403 451 401 454 404 455 405 456 406 457 407 458 408 459 409 45A 40A 45B 40B
       45C 40C 45E 40E 45F 40F 44E 42E 44A 42A 430 410 431 411 446 426 434 414 435 415 444 424 433
       413 AB BB 2591-2593 2502 2524 445 425 438 418 2563 2551 2557 255D 439 419 2510 2514 2534
       252C 251C 2500 253C 43A 41A 255A 2554 2569 2566 2560 2550 256C A4 43B 41B 43C 41C 43D 41D
       43E 41E 43F 2518 250C 2588 2584 41F 44F 2580 42F 440 420 441 421 442 422 443 423 436 416 432
       412 44C 42C 2116 AD 44B 42B 437 417 448 428 44D 42D 449 429 447 427 A7 25A0 A0",
    single "cp856" ""
      "0-7F 5D0-5EA FFFD A3 FFFD D7 FFFD FFFD FFFD FFFD FFFD FFFD FFFD FFFD FFFD FFFD AE AC BD BC
       FFFD AB BB 2591-2593 2502 2524 FFFD FFFD FFFD A9 2563 2551 2557 255D A2 A5 2510 2514 2534
       252C 251C 2500 253C FFFD FFFD 255A 2554 2569 2566 2560 2550 256C A4 FFFD FFFD FFFD FFFD FFFD
       FFFD FFFD FFFD FFFD 2518 250C 2588 2584 A6 FFFD 2580 FFFD FFFD FFFD FFFD FFFD FFFD B5 FFFD
       FFFD FFFD FFFD FFFD FFFD FFFD AF B4 AD B1 2017 BE B6 A7 F7 B8 B0 A8 B7 B9 B3 B2 25A0 A0",
    single "cp857" "857 csibm857 ibm857"
      "0-7F C7 FC E9 E2 E4 E0 E5 E7 EA-EB E8 EF EE 131 C4-C5 C9 E6 C6 F4 F6 F2 FB F9 130 D6 DC F8
       A3 D8 15E-15F E1 ED F3 FA F1 D1 11E-11F BF AE AC BD BC A1 AB BB 2591-2593 2502 2524 C1-C2 C0
       A9 2563 2551 2557 255D A2 A5 2510 2514 2534 252C 251C 2500 253C E3 C3 255A 2554 2569 2566
       2560 2550 256C A4 BA AA CA-CB C8 FFFD CD-CF 2518 250C 2588 2584 A6 CC 2580 D3 DF D4 D2 F5 D5
       B5 FFFD D7 DA-DB D9 EC FF AF B4 AD B1 FFFD BE B6 A7 F7 B8 B0 A8 B7 B9 B3 B2 25A0 A0",
    single "cp858" "858 csibm858 ibm858"
      "0-7F C7 FC E9 E2 E4 E0 E5 E7 EA-EB E8 EF EE EC C4-C5 C9 E6 C6 F4 F6 F2 FB F9 FF D6 DC F8 A3
       D8 D7 192 E1 ED F3 FA F1 D1 AA BA BF AE AC BD BC A1 AB BB 2591-2593 2502 2524 C1-C2 C0 A9
       2563 2551 2557 255D A2 A5 2510 2514 2534 252C 251C 2500 253C E3 C3 255A 2554 2569 2566 2560
       2550 256C A4 F0 D0 CA-CB C8 20AC CD-CF 2518 250C 2588 2584 A6 CC 2580 D3 DF D4 D2 F5 D5 B5
       FE DE DA-DB D9 FD DD AF B4 AD B1 2017 BE B6 A7 F7 B8 B0 A8 B7 B9 B3 B2 25A0 A0",
    single "cp860" "860 csibm860 ibm860"
      "0-7F C7 FC E9 E2-E3 E0 C1 E7 EA CA E8 CD D4 EC C3 C2 C9 C0 C8 F4-F5 F2 DA F9 CC D5 DC A2-A3
       D9 20A7 D3 E1 ED F3 FA F1 D1 AA BA BF D2 AC BD BC A1 AB BB 2591-2593 2502 2524 2561-2562
       2556 2555 2563 2551 2557 255D 255C 255B 2510 2514 2534 252C 251C 2500 253C 255E-255F 255A
       2554 2569 2566 2560 2550 256C 2567-2568 2564-2565 2559 2558 2552-2553 256B 256A 2518 250C
       2588 2584 258C 2590 2580 3B1 DF 393 3C0 3A3 3C3 B5 3C4 3A6 398 3A9 3B4 221E 3C6 3B5 2229
       2261 B1 2265 2264 2320-2321 F7 2248 B0 2219 B7 221A 207F B2 25A0 A0",
    single "cp861" "861 cp_is csibm861 ibm861"
      "0-7F C7 FC E9 E2 E4 E0 E5 E7 EA-EB E8 D0 F0 DE C4-C5 C9 E6 C6 F4 F6 FE FB DD FD D6 DC F8 A3
       D8 20A7 192 E1 ED F3 FA C1 CD D3 DA BF 2310 AC BD BC A1 AB BB 2591-2593 2502 2524 2561-2562
       2556 2555 2563 2551 2557 255D 255C 255B 2510 2514 2534 252C 251C 2500 253C 255E-255F 255A
       2554 2569 2566 2560 2550 256C 2567-2568 2564-2565 2559 2558 2552-2553 256B 256A 2518 250C
       2588 2584 258C 2590 2580 3B1 DF 393 3C0 3A3 3C3 B5 3C4 3A6 398 3A9 3B4 221E 3C6 3B5 2229
       2261 B1 2265 2264 2320-2321 F7 2248 B0 2219 B7 221A 207F B2 25A0 A0",
    single "cp862" "862 cspc862latinhebrew ibm862"
      "0-7F 5D0-5EA A2-A3 A5 20A7 192 E1 ED F3 FA F1 D1 AA BA BF 2310 AC BD BC A1 AB BB 2591-2593
       2502 2524 2561-2562 2556 2555 2563 2551 2557 255D 255C 255B 2510 2514 2534 252C 251C 2500
       253C 255E-255F 255A 2554 2569 2566 2560 2550 256C 2567-2568 2564-2565 2559 2558 2552-2553
       256B 256A 2518 250C 2588 2584 258C 2590 2580 3B1 DF 393 3C0 3A3 3C3 B5 3C4 3A6 398 3A9 3B4
       221E 3C6 3B5 2229 2261 B1 2265 2264 2320-2321 F7 2248 B0 2219 B7 221A 207F B2 25A0 A0",
    single "cp863" "863 csibm863 ibm863"
      "0-7F C7 FC E9 E2 C2 E0 B6 E7 EA-EB E8 EF EE 2017 C0 A7 C9 C8 CA F4 CB CF FB F9 A4 D4 DC
       A2-A3 D9 DB 192 A6 B4 F3 FA A8 B8 B3 AF CE 2310 AC BD BC BE AB BB 2591-2593 2502 2524
       2561-2562 2556 2555 2563 2551 2557 255D 255C 255B 2510 2514 2534 252C 251C 2500 253C
       255E-255F 255A 2554 2569 2566 2560 2550 256C 2567-2568 2564-2565 2559 2558 2552-2553 256B
       256A 2518 250C 2588 2584 258C 2590 2580 3B1 DF 393 3C0 3A3 3C3 B5 3C4 3A6 398 3A9 3B4 221E
       3C6 3B5 2229 2261 B1 2265 2264 2320-2321 F7 2248 B0 2219 B7 221A 207F B2 25A0 A0",
    single "cp864" "864 csibm864 ibm864"
      "0-24 66A 26-7F B0 B7 2219-221A 2592 2500 2502 253C 2524 252C 251C 2534 2510 250C 2514 2518
       3B2 221E 3C6 B1 BD BC 2248 AB BB FEF7-FEF8 FFFD FFFD FEFB-FEFC FFFD A0 AD FE82 A3-A4 FE84
       FFFD FFFD FE8E-FE8F FE95 FE99 60C FE9D FEA1 FEA5 660-669 FED1 61B FEB1 FEB5 FEB9 61F A2
       FE80-FE81 FE83 FE85 FECA FE8B FE8D FE91 FE93 FE97 FE9B FE9F FEA3 FEA7 FEA9 FEAB FEAD FEAF
       FEB3 FEB7 FEBB FEBF FEC1 FEC5 FECB FECF A6 AC F7 D7 FEC9 640 FED3 FED7 FEDB FEDF FEE3 FEE7
       FEEB FEED FEEF FEF3 FEBD FECC FECE FECD FEE1 FE7D 651 FEE5 FEE9 FEEC FEF0 FEF2 FED0 FED5
       FEF5-FEF6 FEDD FED9 FEF1 25A0",
    single "cp865" "865 csibm865 ibm865"
      "0-7F C7 FC E9 E2 E4 E0 E5 E7 EA-EB E8 EF EE EC C4-C5 C9 E6 C6 F4 F6 F2 FB F9 FF D6 DC F8 A3
       D8 20A7 192 E1 ED F3 FA F1 D1 AA BA BF 2310 AC BD BC A1 AB A4 2591-2593 2502 2524 2561-2562
       2556 2555 2563 2551 2557 255D 255C 255B 2510 2514 2534 252C 251C 2500 253C 255E-255F 255A
       2554 2569 2566 2560 2550 256C 2567-2568 2564-2565 2559 2558 2552-2553 256B 256A 2518 250C
       2588 2584 258C 2590 2580 3B1 DF 393 3C0 3A3 3C3 B5 3C4 3A6 398 3A9 3B4 221E 3C6 3B5 2229
       2261 B1 2265 2264 2320-2321 F7 2248 B0 2219 B7 221A 207F B2 25A0 A0",
    single "cp866" "866 csibm866 ibm866"
      "0-7F 410-43F 2591-2593 2502 2524 2561-2562 2556 2555 2563 2551 2557 255D 255C 255B 2510 2514
       2534 252C 251C 2500 253C 255E-255F 255A 2554 2569 2566 2560 2550 256C 2567-2568 2564-2565
       2559 2558 2552-2553 256B 256A 2518 250C 2588 2584 258C 2590 2580 440-44F 401 451 404 454 407
       457 40E 45E B0 2219 B7 221A 2116 A4 25A0 A0",
    single "cp869" "869 cp_gr csibm869 ibm869"
      "0-7F FFFD FFFD FFFD FFFD FFFD FFFD 386 FFFD B7 AC A6 2018-2019 388 2015 389-38A 3AA 38C FFFD
       FFFD 38E 3AB A9 38F B2-B3 3AC A3 3AD-3AF 3CA 390 3CC-3CD 391-397 BD 398-399 AB BB 2591-2593
       2502 2524 39A-39D 2563 2551 2557 255D 39E-39F 2510 2514 2534 252C 251C 2500 253C 3A0-3A1
       255A 2554 2569 2566 2560 2550 256C 3A3-3A9 3B1-3B3 2518 250C 2588 2584 3B4-3B5 2580 3B6-3C1
       3C3 3C2 3C4 384 AD B1 3C5-3C7 A7 3C8 385 B0 A8 3C9 3CB 3B0 3CE 25A0 A0" ]

end SchemaRecords.Charset
